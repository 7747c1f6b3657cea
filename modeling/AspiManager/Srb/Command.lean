import AspiManager.Bytes.Hex

/-!
# Commands of a request block

The first octet of a request block says what is asked for. Five codes are known.
-/

namespace AspiManager

namespace Srb

/-- What a request block asks for. -/
inductive Command where
  | adapterInquiry
  | deviceType
  | execute
  | abort
  | reset
  deriving DecidableEq, Repr

namespace Command

def toByte : Command → UInt8
  | adapterInquiry => 0
  | deviceType => 1
  | execute => 2
  | abort => 3
  | reset => 4

def ofByte? (b : UInt8) : Option Command :=
  if b = 0 then some adapterInquiry
  else if b = 1 then some deviceType
  else if b = 2 then some execute
  else if b = 3 then some abort
  else if b = 4 then some reset
  else none

/-- The name of the command in dumps. -/
def label : Command → String
  | adapterInquiry => "HaInquiry"
  | deviceType => "GetDeviceType"
  | execute => "ExecScsiCmd"
  | abort => "AbortSrb"
  | reset => "ResetDevice"

/-- What is said about a code that is not known. -/
def unknownMessage (b : UInt8) : String := "unknown SRB command: 0x" ++ Hex.padded 2 b.toNat

end Command

end Srb

end AspiManager
