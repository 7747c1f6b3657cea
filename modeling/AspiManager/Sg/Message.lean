import AspiManager.Sg.Header

/-!
# Messages of a generic SCSI channel

Out goes a header, the command block and the octets for the device, in one write. Back comes a
header and the octets of the device.
-/

namespace AspiManager

namespace Sg

/-- A message to the device. -/
structure Message where
  octets : Bytes
  /-- The length of the reply that the header announces. -/
  replyLength : Nat
  deriving DecidableEq, Repr

namespace Message

/-- The longest reply that a header can announce. -/
def maxReply : Nat := 0x7fffffff

/-- What is said about a reply that is too long to be announced. -/
def tooLargeMessage (n : Nat) : String := "reply too large: " ++ toString n

/-- The header that announces a reply of `n` octets. -/
def announce (n : Nat) : Header := { replyLen := Int32.ofNat n }

/-- The message with a command block and octets for the device; none if the length of the reply
does not fit the header. -/
def assemble? (cdb payload : Bytes) (replyLength : Nat) : Option Message :=
  if replyLength ≤ maxReply then
    some ⟨(announce replyLength).encode ++ cdb ++ payload, replyLength⟩
  else none

def length (m : Message) : Nat := m.octets.length

def header? (m : Message) : Option Header := Header.parse? m.octets

end Message

/-- A message from the device. -/
structure Reply where
  header : Header
  payload : Bytes
  deriving DecidableEq, Repr

namespace Reply

/-- What is said about octets that are too few for a header. -/
def shortMessage (n : Nat) : String :=
  "reply shorter than sg header: " ++ toString n ++ " < " ++ toString Header.length

def parse? (bs : Bytes) : Option Reply :=
  (Header.parse? bs).map fun h => ⟨h, bs.drop Header.length⟩

def toBytes (r : Reply) : Bytes := r.header.encode ++ r.payload

def result (r : Reply) : Int32 := r.header.result

/-- The sense octets that count. -/
def sense (r : Reply) : Bytes := r.header.validSense

end Reply

end Sg

end AspiManager
