import AspiManager.Config.Basic

/-!
# Configuration sessions

A configuration that is changed, validated and asked step by step. A validation that fails leaves
everything as it is.
-/

namespace AspiManager

namespace Config

/-- A step of a session. -/
inductive Step where
  | put (name : String) (entry : DeviceEntry)
  | remove (name : String)
  | setAdapter (adapter : Adapter)
  | validate
  | lookup (key : DeviceKey)
  deriving DecidableEq, Repr

/-- The answer to a step. -/
inductive StepAnswer where
  /-- The entry that was there before. -/
  | entry (old : Option DeviceEntry)
  | adapter (adapter : Adapter)
  | valid
  | refused (error : ConfigError)
  | path (path : Option String)
  deriving DecidableEq, Repr

/-- Does one step. -/
def step (c : Config) : Step → StepAnswer × Config
  | .put name e => (.entry (c.entry? name), c.insert name e)
  | .remove name => (.entry (c.entry? name), c.erase name)
  | .setAdapter a => (.adapter a, c.withAdapter a)
  | .validate =>
    match c.validate with
    | .ok valid => (.valid, valid)
    | .error e => (.refused e, c)
  | .lookup key => (.path (c.devicePath key), c)

/-- The answers to steps in order. -/
def answers (c : Config) : List Step → List StepAnswer
  | [] => []
  | s :: rest => let (a, c) := c.step s; a :: c.answers rest

end Config

end AspiManager
