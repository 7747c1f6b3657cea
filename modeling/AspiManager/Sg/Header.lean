import AspiManager.Bytes.Hex
import AspiManager.Bytes.Signed
import AspiManager.Text.Quoted
import AspiManager.Text.Record

/-!
# The generic SCSI header

Every message to and from a generic SCSI channel begins with the same 36 octets, all words
little-endian. Going out it announces the length of the reply; coming back it carries the result
and up to sixteen octets of sense data.
-/

namespace AspiManager

namespace Sg

/-- The header of a message. -/
structure Header where
  packLen : Int32 := 0
  replyLen : Int32 := 0
  packId : Int32 := 0
  result : Int32 := 0
  flags : UInt32 := 0
  sense : Vector UInt8 16 := Vector.replicate 16 0
  deriving DecidableEq, Repr

namespace Header

/-- The length of the header. -/
def length : Nat := 36

/-- The most sense octets that a reply carries. -/
def maxSense : Nat := 16

def encode (h : Header) : Bytes :=
  Bytes.ofInt32 h.packLen ++ Bytes.ofInt32 h.replyLen ++ Bytes.ofInt32 h.packId ++
    Bytes.ofInt32 h.result ++ Bytes.ofWord32 h.flags ++ h.sense.toList

/-- Reads the header from the front of a message. -/
def parse? (bs : Bytes) : Option Header :=
  if bs.length < length then none
  else some
    { packLen := bs.int32 0, replyLen := bs.int32 4, packId := bs.int32 8,
      result := bs.int32 12, flags := bs.word32 16, sense := bs.field 16 20 }

/-- The number of sense octets that count: sense data of the four known response codes says how
much follows its first eight octets; with any other code there is none. -/
def senseLength (h : Header) : Nat :=
  let code := h.sense[0] &&& 0x7F
  if 0x70 ≤ code ∧ code ≤ 0x73 then min maxSense (8 + h.sense[7].toNat) else 0

/-- The sense octets that count. -/
def validSense (h : Header) : Bytes := h.sense.toList.take h.senseLength

/-- The dump of a header. -/
def text (h : Header) : String :=
  Record.text "SgHeader"
    [("pack_len", toString h.packLen.toInt), ("reply_len", toString h.replyLen.toInt),
      ("pack_id", toString h.packId.toInt), ("result", toString h.result.toInt),
      ("flags", "0x" ++ Hex.number h.flags.toNat),
      ("sense", Quoted.text (Hex.encode h.sense.toList))]

@[simp] theorem length_encode (h : Header) : h.encode.length = length := by
  simp [encode, length]

end Header

end Sg

end AspiManager
