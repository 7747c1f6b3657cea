import AspiManager.Config.Adapter
import AspiManager.Device.Key

/-!
# Configuration

The settings of the adapter, and the device entries: a name, and the path of the node, which is
given plainly or in a section. `Config.validate` checks the whole and gives the table by which
devices are looked up; the entries can be changed afterwards, which changes the table only when they
are validated again.
-/

namespace AspiManager

/-- The path of a device node, in one of its two forms. -/
inductive DeviceEntry where
  | plain (path : String)
  | sectioned (path : String)
  deriving DecidableEq, Repr

def DeviceEntry.path : DeviceEntry → String
  | plain p => p
  | sectioned p => p

/-- Why a configuration is not accepted. -/
inductive ConfigError where
  /-- The text is no document of the right shape. -/
  | unreadable
  | scsiId
  | notAscii (field : String)
  | tooLong (field : String)
  | badName (name : String)
  | emptyPath (name : String)
  | duplicate (key : DeviceKey)
  deriving DecidableEq, Repr

/-- The entries by name, in order, the adapter, and the table of the last validation. -/
structure Config where
  devices : List (String × DeviceEntry) := []
  adapter : Adapter := {}
  resolved : List (DeviceKey × String) := []
  deriving DecidableEq, Repr

namespace Config

/-- The most octets of a name of the adapter. -/
def maxName : Nat := 15

end Config

def ConfigError.message : ConfigError → String
  | unreadable => "failed to parse config YAML"
  | scsiId => "ScsiId must be in 0..=7"
  | notAscii field => field ++ " must be ASCII"
  | tooLong field => field ++ " must be at most " ++ toString Config.maxName ++ " characters"
  | badName name => DeviceKey.badNameMessage name
  | emptyPath name => "device " ++ name ++ ": empty path"
  | duplicate key => "device " ++ key.text ++ " configured twice"

namespace Config

/-- Puts an entry at its place in the order of names, over the one with its name. -/
def insertEntry (name : String) (e : DeviceEntry) :
    List (String × DeviceEntry) → List (String × DeviceEntry)
  | [] => [(name, e)]
  | (n, d) :: rest =>
    if name = n then (name, e) :: rest
    else if name < n then (name, e) :: (n, d) :: rest
    else (n, d) :: insertEntry name e rest

/-- The entry of a name. -/
def entry? (c : Config) (name : String) : Option DeviceEntry := c.devices.lookup name

def insert (c : Config) (name : String) (e : DeviceEntry) : Config :=
  { c with devices := insertEntry name e c.devices }

def erase (c : Config) (name : String) : Config :=
  { c with devices := c.devices.filter (·.1 != name) }

def withAdapter (c : Config) (a : Adapter) : Config := { c with adapter := a }

/-- The name of an adapter is short ASCII. -/
def checkName (field value : String) : Except ConfigError Unit :=
  if value.toList.any (fun ch => 0x80 ≤ ch.toNat) then .error (.notAscii field)
  else if maxName < value.length then .error (.tooLong field)
  else .ok ()

def checkAdapter (a : Adapter) : Except ConfigError Unit := do
  if 7 < a.scsiId then .error .scsiId
  checkName "ManagerId" a.managerId
  checkName "Identifier" a.identifier

/-- Adds entries to a table of paths; no key may come twice. -/
def resolveEntries (table : List (DeviceKey × String)) :
    List (String × DeviceEntry) → Except ConfigError (List (DeviceKey × String))
  | [] => .ok table
  | (name, e) :: rest =>
    match DeviceKey.parse? name with
    | none => .error (.badName name)
    | some key =>
      if e.path.isEmpty then .error (.emptyPath name)
      else if (table.lookup key).isSome then .error (.duplicate key)
      else resolveEntries ((key, e.path) :: table) rest

/-- The configuration with the table of its entries, if it is acceptable. -/
def validate (c : Config) : Except ConfigError Config := do
  checkAdapter c.adapter
  return { c with resolved := ← resolveEntries [] c.devices }

/-- The path of the node of a device, as of the last validation. -/
def devicePath (c : Config) (key : DeviceKey) : Option String := c.resolved.lookup key

end Config

end AspiManager
