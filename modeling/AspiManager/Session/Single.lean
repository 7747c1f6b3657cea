import AspiManager.Manager.Exchange
import AspiManager.Session.Stage

/-!
# A single exchange with a scripted device

One message to a device that knows at most one step.
-/

namespace AspiManager

namespace Session

/-- Scripted devices alone as a host. -/
def deviceHost : Host Devices := ⟨Devices.openNode, Devices.write, Devices.read⟩

/-- The devices of a single exchange: one channel, whose script is one step or none. -/
def singleDevice (step : Option DeviceStep) : Devices :=
  { scripts := [("", ⟨step.toList, none⟩)], channels := #[""] }

/-- The outcome of an exchange with such a device, and the number of writes. -/
def singleExchange (step : Option DeviceStep) (message : Sg.Message) (expected : Nat) :
    Except Fault (Except TransferError Sg.Reply) × Nat :=
  let m : Manager Devices := ⟨deviceHost, fun _ => none, {}, fun _ _ => return ()⟩
  let s : State Devices := { memory := .zeroed 0, world := singleDevice step }
  let (outcome, s) := ((m.exchange 0 message expected).run).run s
  (outcome, s.effects.toList.countP fun | .wrote .. => true | _ => false)

end Session

end AspiManager
