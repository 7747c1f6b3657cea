import AspiManager.Bytes.Hex

/-!
# Request status

The five values of the status byte of a request. A request is pending while its exchange is in
flight; the other four end it.
-/

namespace AspiManager

/-- The status of a request, as a caller reads it. -/
inductive Status where
  /-- Accepted, the exchange is in flight. -/
  | pending
  /-- Completed without error. -/
  | complete
  /-- Completed with error. -/
  | failed
  /-- The request was malformed. -/
  | invalid
  /-- The device is held elsewhere. -/
  | busy
  deriving DecidableEq, Repr, Inhabited

namespace Status

def toByte : Status → UInt8
  | pending => 0x00
  | complete => 0x01
  | failed => 0x04
  | invalid => 0xE0
  | busy => 0xE5

def ofByte? (b : UInt8) : Option Status :=
  if b = 0x00 then some pending
  else if b = 0x01 then some complete
  else if b = 0x04 then some failed
  else if b = 0xE0 then some invalid
  else if b = 0xE5 then some busy
  else none

/-- What is said about a byte that is no status. -/
def unknownMessage (b : UInt8) : String := "invalid ASPI status: 0x" ++ Hex.padded 2 b.toNat

/-- Whether the status ends a request. -/
def isTerminal (s : Status) : Bool := s != pending

/-- The name a caller knows the status by. -/
def text : Status → String
  | pending => "SS_PENDING"
  | complete => "SS_COMP"
  | failed => "SS_ERR"
  | invalid => "SS_INVALID_SRB"
  | busy => "SS_ASPI_IS_BUSY"

/-- The name of the status in dumps. -/
def label : Status → String
  | pending => "Pending"
  | complete => "Complete"
  | failed => "Error"
  | invalid => "InvalidRequest"
  | busy => "Busy"

theorem ofByte?_toByte (s : Status) : ofByte? s.toByte = some s := by cases s <;> rfl

end Status

end AspiManager
