import AspiManager.Manager.State
import AspiManager.Request.Error

/-!
# Handles on demand

The handle of a device is the one that was opened first. A device without a handle is looked up in
the directory and opened; if that fails nothing is kept, and the next request tries again.
-/

namespace AspiManager

namespace Manager

variable {σ : Type}

/-- An event of the registry. -/
def registryEvent (level : Log.Level) (message : String) (key : DeviceKey)
    (fields : List (String × Log.Value)) : Log.Event :=
  { level := level, source := .registry, message := message
    fields := ("key", .text key.text) :: fields }

/-- Opens the node of a device and keeps the handle. -/
def openDevice (m : Manager σ) (key : DeviceKey) (path : String) :
    Run σ (Except RequestError Handle) := do
  Run.report (registryEvent .trace "Opening device" key [("path", .text path)])
  Run.setRegistry (← get).registry.countOpen
  Run.record (.opened path)
  match ← Run.host (m.host.openNode path) with
  | .error e =>
    Run.report (registryEvent .error "Error opening device" key
      [("path", .text path), ("errno", .text e.numberText)])
    return .error (.missing key (.unopened path e))
  | .ok channel =>
    let handle : Handle := ⟨key, path, channel⟩
    Run.setRegistry ((← get).registry.insert handle)
    return .ok handle

/-- The handle of a device. -/
def acquire (m : Manager σ) (key : DeviceKey) : Run σ (Except RequestError Handle) := do
  let registry := (← get).registry
  match registry.find? key with
  | some handle =>
    Run.setRegistry registry.hit
    return .ok handle
  | none =>
    Run.setRegistry registry.miss
    match m.directory key with
    | some path => m.openDevice key path
    | none =>
      Run.report (registryEvent .trace "Trying to open unlisted scsi device" key [])
      return .error (.missing key .unlisted)

end Manager

end AspiManager
