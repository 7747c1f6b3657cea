import AspiManager.Request.Error
import AspiManager.Request.Basic
import AspiManager.Sg.Message

/-!
# The message of a request

What is written to the device for a request: the command block, and the caller's data if it moves
to the device. The header announces the reply: the data if it moves to the caller.
-/

namespace AspiManager

namespace Request

/-- The command block has one to sixteen octets. -/
def checkCommand (r : Request) : Except RequestError Unit :=
  if r.cdb.isEmpty then .error (.malformed .emptyCommand)
  else if maxCdbLength < r.cdb.length then .error (.malformed .commandTooLong)
  else .ok ()

/-- The length of the reply that the device has to give. -/
def expectedReply (r : Request) : Nat :=
  match r.direction with
  | .input => Sg.Header.length + r.data.len.toNat
  | .output | .both | .unchecked => Sg.Header.length

/-- The message for the device; `payload` only counts if it moves there. -/
def message (r : Request) (payload : Bytes) : Except RequestError Sg.Message := do
  r.checkCommand
  let payload := match r.direction with
    | .output => payload
    | .input | .both | .unchecked => []
  match Sg.Message.assemble? r.cdb payload r.expectedReply with
  | some m => .ok m
  | none => .error (.malformed .dataTooLong)

end Request

end AspiManager
