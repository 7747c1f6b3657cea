import AspiManager.Text.Quoted
import AspiManager.Yaml.Reading

/-!
# Logger settings

What is logged and where to, as a YAML document says under `logger`.
-/

namespace AspiManager

open Yaml

namespace Log

/-- Where log records go. -/
inductive Output where
  | stdout
  | stderr
  | file
  deriving DecidableEq, Repr

def Output.text : Output → String
  | stdout => "stdout"
  | stderr => "stderr"
  | file => "file"

/-- How often a new log file is begun. -/
inductive Rotation where
  | minutely
  | hourly
  | daily
  | never
  deriving DecidableEq, Repr

def Rotation.text : Rotation → String
  | minutely => "minutely"
  | hourly => "hourly"
  | daily => "daily"
  | never => "never"

/-- Where the log file is and how often it is begun anew. -/
structure FileSettings where
  path : String
  rotation : Rotation := .never
  deriving DecidableEq, Repr

/-- The settings of a logger. -/
structure Settings where
  level : String
  output : Output
  showLine : Bool := false
  showModulePath : Bool := false
  showTarget : Bool := false
  file : Option FileSettings := none
  deriving DecidableEq, Repr

/-- Why there are no settings: the file at a path cannot be read, or does not describe any. -/
inductive SettingsError where
  | unreadable (path : String)
  | malformed (path : String)
  deriving DecidableEq, Repr

def SettingsError.message : SettingsError → String
  | unreadable path => "Failed to read config file: " ++ Quoted.text path
  | malformed path => "Failed to parse config file: " ++ Quoted.text path

namespace Settings

/-- The names of the outputs: in small letters, capitalised, and in capitals. -/
def outputNames : List (String × Output) :=
  [("stdout", .stdout), ("Stdout", .stdout), ("STDOUT", .stdout), ("stderr", .stderr),
    ("Stderr", .stderr), ("STDERR", .stderr), ("file", .file), ("File", .file), ("FILE", .file)]

/-- The names of the rotations: in small letters and capitalised. -/
def rotationNames : List (String × Rotation) :=
  [("minutely", .minutely), ("Minutely", .minutely), ("hourly", .hourly), ("Hourly", .hourly),
    ("daily", .daily), ("Daily", .daily), ("never", .never), ("Never", .never)]

def readFile (n : Node) : Reading FileSettings := do
  let fs ← Reading.fields ["path", "rotation_frequency"] n
  return {
    path := ← Reading.required fs "path" Reading.text
    rotation := ← Reading.fieldOr fs "rotation_frequency" (Reading.choice rotationNames) .never }

/-- Reads the settings of a logger. -/
def read (n : Node) : Reading Settings := do
  let fs ← Reading.fields
    ["level", "output", "is_show_line", "is_show_module_path", "is_show_target", "file"] n
  return {
    level := ← Reading.required fs "level" Reading.text
    output := ← Reading.required fs "output" (Reading.choice outputNames)
    showLine := ← Reading.fieldOr fs "is_show_line" Reading.truth false
    showModulePath := ← Reading.fieldOr fs "is_show_module_path" Reading.truth false
    showTarget := ← Reading.fieldOr fs "is_show_target" Reading.truth false
    file := ← Reading.fieldOr fs "file" (Reading.optional readFile) none }

/-- Reads a document that holds settings. -/
def readDocument (n : Node) : Reading Settings := do
  Reading.required (← Reading.fields ["logger"] n) "logger" read

/-- The settings in the text of a file, if the file can be read. -/
def load (path : String) (source : Option String) : Except SettingsError Settings :=
  match source with
  | none => .error (.unreadable path)
  | some source =>
    match Reading.run readDocument source with
    | some s => .ok s
    | none => .error (.malformed path)

end Settings

end Log

end AspiManager
