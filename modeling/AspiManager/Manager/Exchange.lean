import AspiManager.Device.TransferError
import AspiManager.Manager.State
import AspiManager.Sg.Message

/-!
# One exchange with a channel

The whole message is offered to the channel in one write; if the channel takes exactly that, the
reply is asked for in one read. Nothing is tried twice.

A device is held for the time of one exchange. Runs are sequential, so that it is free whenever an
exchange begins: the lock of a device that broke down in the middle of one is taken over like any
other lock, with no question asked. So a handle needs no mark of who holds it, or that its last
holder broke down: no later exchange could tell.
-/

namespace AspiManager

namespace Manager

variable {σ : Type}

/-- An event of the exchange. -/
def exchangeEvent (message : String) (fields : List (String × Log.Value)) : Log.Event :=
  { level := .warn, source := .exchange, message := message, fields := fields }

/-- What is said about a message that the driver has no memory for. -/
def driverBufferMessage : String :=
  "Linux generic scsi driver: the request exceeds the driver buffer (SG_BIG_BUFF); " ++
    "a kernel with a larger buffer is needed"

/-- The events of a write that failed. -/
def writeFailed (e : IoError) : List Log.Event :=
  (if e.isOutOfMemory then [exchangeEvent driverBufferMessage []] else []) ++
    [exchangeEvent "write to scsi device failed" [("errno", .text e.numberText)]]

/-- Offers a message to a channel, which has to take all of it. -/
def offer (m : Manager σ) (channel : Nat) (message : Sg.Message) :
    Run σ (Except TransferError Unit) := do
  Run.record (.wrote channel message.octets)
  match ← Run.host (m.host.write channel message.octets) with
  | .crashed => throw .device
  | .failed e =>
    Run.reportAll (writeFailed e)
    return .error (.io e)
  | .done written =>
    if written = message.length then return .ok ()
    Run.report (exchangeEvent "Not enough bytes written to scsi device"
      [("expected", .int message.length), ("written", .int written)])
    return .error (.shortWrite message.length written)

/-- Asks a channel for a reply of exactly `expected` octets, and never fewer than a header. -/
def collect (m : Manager σ) (channel expected : Nat) : Run σ (Except TransferError Sg.Reply) := do
  let count := max expected Sg.Header.length
  Run.record (.asked channel count)
  match ← Run.host (m.host.read channel count) with
  | .crashed => throw .device
  | .failed e => return .error (.io e)
  | .done (read, octets) =>
    if read = count then
      match Sg.Reply.parse? (Bytes.fit count octets) with
      | some reply => return .ok reply
      | none => return .error (.shortRead expected read)
    Run.report (exchangeEvent "not enough bytes read from scsi device"
      [("expected", .int count), ("read", .int read)])
    return .error (.shortRead count read)

/-- Writes a message to a channel and reads the reply. -/
def exchange (m : Manager σ) (channel : Nat) (message : Sg.Message) (expected : Nat) :
    Run σ (Except TransferError Sg.Reply) := do
  match ← m.offer channel message with
  | .error e => return .error e
  | .ok () => m.collect channel expected

end Manager

end AspiManager
