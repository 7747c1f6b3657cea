import AspiManager.Device.Key
import AspiManager.Device.TransferError
import AspiManager.Memory.Address
import AspiManager.Request.Status

/-!
# Why a request fails

A request is malformed, has no device, fails in its exchange, or its device reports a result. The
caller only sees the status that `RequestError.status` narrows the cause to.
-/

namespace AspiManager

/-- What makes a request malformed. -/
inductive Malformed where
  | emptyCommand
  | commandTooLong
  | dataTooLong
  | overlappingBuffers
  deriving DecidableEq, Repr

def Malformed.message : Malformed → String
  | emptyCommand => "zero-length command block"
  | commandTooLong => "command block longer than 16 bytes"
  | dataTooLong => "data length does not fit the sg header"
  | overlappingBuffers => "data and sense buffers overlap"

/-- Why there is no device behind a key. -/
inductive Missing where
  | unlisted
  | unopened (path : String) (error : IoError)
  deriving DecidableEq, Repr

def Missing.message : Missing → String
  | unlisted => "no device configured"
  | unopened path e => "failed to open " ++ Quoted.text path ++ ": " ++ e.message

/-- Why a request fails. -/
inductive RequestError where
  | malformed (cause : Malformed)
  | missing (key : DeviceKey) (cause : Missing)
  | transfer (cause : TransferError)
  | device (result : Int32)
  | address (cause : AddressError)
  deriving DecidableEq, Repr

namespace RequestError

def message : RequestError → String
  | malformed c => "invalid request: " ++ c.message
  | missing k c => "device " ++ k.text ++ " not found: " ++ c.message
  | transfer c => c.message
  | device r => "device reported result " ++ toString r.toInt
  | address c => "bad caller address: " ++ c.message

/-- The status that the caller sees. Of all failures only a busy device is told apart. -/
def status : RequestError → Status
  | malformed _ | address _ => .invalid
  | transfer c => if c.isBusy then .busy else .failed
  | missing .. | device _ => .failed

end RequestError

/-- Why no post routine was called though one was asked for. -/
inductive PostError where
  | address (cause : AddressError)
  | unknownEntry (entry : Nat)
  deriving DecidableEq, Repr

def PostError.message : PostError → String
  | address c => "post routine address: " ++ c.message
  | unknownEntry n => "no post routine registered at linear 0x" ++ Hex.number n

end AspiManager
