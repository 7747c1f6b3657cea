import AspiManager.Bytes.Basic
import AspiManager.Config.Adapter
import AspiManager.Request.Status

/-!
# Request blocks that ask for the host adapter

The block has 62 octets. Answering fills in status, sizes, counts and names and keeps the rest as
the caller left it.
-/

namespace AspiManager

namespace Srb

/-- A block that asks for the host adapter. -/
structure AdapterInquiry where
  command : UInt8 := 0
  status : UInt8 := 0
  adapter : UInt8 := 0
  flags : UInt8 := 0
  signature : UInt16 := 0
  extBufferSize : UInt16 := 0
  adapterCount : UInt8 := 0
  scsiId : UInt8 := 0
  managerId : Vector UInt8 16 := Vector.replicate 16 0
  identifier : Vector UInt8 16 := Vector.replicate 16 0
  unique : Vector UInt8 16 := Vector.replicate 16 0
  extBuffer : Vector UInt8 4 := Vector.replicate 4 0
  deriving DecidableEq, Repr

namespace AdapterInquiry

def length : Nat := 62

/-- The signature of a caller that knows the extended form. -/
def extendedSignature : UInt16 := 0x55AA

/-- The number of host adapters there are. -/
def adapters : UInt8 := 1

def encode (q : AdapterInquiry) : Bytes :=
  [q.command, q.status, q.adapter, q.flags] ++ Bytes.ofWord16 q.signature ++
    Bytes.ofWord16 q.extBufferSize ++ [q.adapterCount, q.scsiId] ++ q.managerId.toList ++
    q.identifier.toList ++ q.unique.toList ++ q.extBuffer.toList

/-- Reads a block from exactly its octets. -/
def parse? (bs : Bytes) : Option AdapterInquiry :=
  if bs.length = length then some
    { command := bs.octet 0, status := bs.octet 1, adapter := bs.octet 2, flags := bs.octet 3,
      signature := bs.word16 4, extBufferSize := bs.word16 6, adapterCount := bs.octet 8,
      scsiId := bs.octet 9, managerId := bs.field 16 10, identifier := bs.field 16 26,
      unique := bs.field 16 42, extBuffer := bs.field 4 58 }
  else none

/-- The octets of a name, at most fifteen, filled up with zeros. -/
def nameField (s : String) : Vector UInt8 16 :=
  Bytes.field (s.toUTF8.toList.take 15) 16 0

/-- The answer of an adapter in the caller's block. -/
def answer (a : Adapter) (q : AdapterInquiry) : AdapterInquiry :=
  { q with
    status := Status.complete.toByte
    extBufferSize := a.extBufferSize
    adapterCount := adapters
    scsiId := a.scsiId
    managerId := nameField a.managerId
    identifier := nameField a.identifier
    unique := Bytes.field (Bytes.zeros 4 ++ Bytes.ofWord32 a.maxTransferLength) 16 0 }

end AdapterInquiry

/-- The text of a name field: what precedes the first zero. The names that get into a field have been
found to be ASCII when the configuration was validated. Any other octet would show as one replacement
character, also where it is part of a character in UTF-8. -/
def nameText (field : Vector UInt8 16) : String :=
  String.ofList <| (field.toList.takeWhile (· ≠ 0)).map fun b =>
    if b < 0x80 then Char.ofNat b.toNat else '\uFFFD'

end Srb

end AspiManager
