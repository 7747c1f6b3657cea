import AspiManager.Config.Basic
import AspiManager.Yaml.Reading

/-!
# Configuration files

A configuration is a YAML document with the device entries under `Devices` and the settings of the
adapter under `Adapter`. What is not given has its default.
-/

namespace AspiManager

open Yaml

namespace Adapter

/-- Reads the settings of the adapter. -/
def read (n : Node) : Reading Adapter := do
  let fs ← Reading.fields
    ["ScsiId", "ManagerId", "Identifier", "MaxTransferLength", "ExtBufferSize"] n
  let d : Adapter := {}
  let number (name : String) (max default : Nat) : Reading Nat :=
    Reading.fieldOr fs name (Reading.natural max) default
  return {
    scsiId := UInt8.ofNat (← number "ScsiId" 0xFF d.scsiId.toNat)
    managerId := ← Reading.fieldOr fs "ManagerId" Reading.text d.managerId
    identifier := ← Reading.fieldOr fs "Identifier" Reading.text d.identifier
    maxTransferLength :=
      UInt32.ofNat (← number "MaxTransferLength" 0xFFFFFFFF d.maxTransferLength.toNat)
    extBufferSize := UInt16.ofNat (← number "ExtBufferSize" 0xFFFF d.extBufferSize.toNat) }

end Adapter

namespace DeviceEntry

/-- The most collections that an entry nests. -/
def maxDepth : Nat := 126

/-- Whether a key of a section names the device: by name, or by the number of the field. -/
def isDeviceKey (k : Node) : Reading Bool := do
  match ← Reading.meaningOf? k with
  | some (.text s) => return s == "Device"
  | some (.integer n) => if n < 0 then failure else return n == 0
  | _ => failure

/-- The text of a path. Null, a truth value or a number is none. -/
def readPath (n : Node) : Reading String := do
  match ← Reading.meaningOf? n with
  | some (.text s) => return s
  | _ => failure

/-- The path in a section, which has to be there once. -/
def readSection : List (Node × Node) → Option String → Reading String
  | [], some path => return path
  | [], none => failure
  | (k, v) :: rest, found => do
    if ← isDeviceKey k then
      if found.isSome then failure
      readSection rest (some (← readPath v))
    else readSection rest found

/-- Reads a device entry in either form. -/
def read (n : Node) : Reading DeviceEntry := do
  Reading.meaningful maxDepth n
  match ← Reading.follow n with
  | .mapping _ pairs => return .sectioned (← readSection pairs none)
  | n => return .plain (← readPath n)

end DeviceEntry

namespace Config

/-- Reads the device entries. Of entries with one name the last counts. -/
def readDevices (n : Node) : Reading (List (String × DeviceEntry)) := do
  (← Reading.entries n).foldlM
    (fun devices (k, v) => return insertEntry (← Reading.text k) (← DeviceEntry.read v) devices) []

/-- Reads a configuration, not validated. -/
def read (n : Node) : Reading Config := do
  let fs ← Reading.fields ["Devices", "Adapter"] n
  return {
    devices := ← Reading.fieldOr fs "Devices" readDevices []
    adapter := ← Reading.fieldOr fs "Adapter" Adapter.read {} }

/-- The configuration that a text describes, validated. -/
def ofText (source : String) : Except ConfigError Config :=
  match Reading.run read source with
  | some c => c.validate
  | none => .error .unreadable

end Config

end AspiManager
