import AspiManager.Log.Filter
import AspiManager.Log.Settings

/-!
# Loggers

A logger is set up once, from its settings, and turns the events that its filter lets through into
records. Events may lie in a span, which has a name and a number of its own: its beginning and end
are recorded too, and the records of events in it show it.
-/

namespace AspiManager

namespace Log

/-- Why a logger cannot be set up. -/
inductive SetupError where
  | settings (error : SettingsError)
  /-- Records go to a file, and none is given. -/
  | noFile
  /-- The level is no filter. -/
  | level
  /-- There is a logger already. -/
  | again
  deriving DecidableEq, Repr

def SetupError.message : SetupError → String
  | settings e => e.message
  | noFile => "Failed to find log config file"
  | level => "Failed to parse log level from config"
  | again => "Failed to set global default subscriber"

/-- A logger. -/
structure Logger where
  settings : Settings
  filter : Filter
  deriving DecidableEq, Repr

/-- A span of work. -/
structure Span where
  name : String
  target : String
  id : Nat
  deriving DecidableEq, Repr

/-- A log record. What the settings do not show is missing. -/
structure Record where
  level : Level
  target : Option String
  modulePath : Option String
  line : Bool
  message : String
  fields : List (String × Value)
  span : Option Span
  deriving DecidableEq, Repr

namespace Logger

/-- Sets up a logger from the text of the file at a path, if it can be read. -/
def setUp (path : String) (source : Option String) : Except SetupError Logger :=
  match Settings.load path source with
  | .error e => .error (.settings e)
  | .ok settings =>
    if settings.output = .file ∧ settings.file.isNone then .error .noFile
    else match Filter.parse? settings.level with
      | none => .error .level
      | some filter => .ok ⟨settings, filter⟩

/-- A record with what the settings show. -/
def record (l : Logger) (level : Level) (target message : String) (fields : List (String × Value))
    (span : Option Span) : Record :=
  { level := level, message := message, fields := fields, span := span, line := l.settings.showLine
    target := if l.settings.showTarget then some target else none
    modulePath := if l.settings.showModulePath then some target else none }

/-- The record of an event, if it is let through. -/
def recordOf? (l : Logger) (span : Option Span) (e : Event) : Option Record :=
  if l.filter.allows e.source.target e.level then
    some (l.record e.level e.source.target e.message e.fields span)
  else none

/-- The records of events in order, within a span if there is one and it is let through. -/
def records (l : Logger) (span : Option Span) (es : List Event) : List Record :=
  match span.filter fun s => l.filter.allows s.target .info with
  | none => es.filterMap (l.recordOf? none)
  | some s =>
    [l.record .info s.target "new" [] (some s)] ++ es.filterMap (l.recordOf? (some s)) ++
      [l.record .info s.target "close" [] (some s)]

/-- The records that go to an output: all of them to the one that is set, none to the others. -/
def sentTo (l : Logger) (o : Output) (rs : List Record) : List Record :=
  if l.settings.output = o then rs else []

end Logger

end Log

end AspiManager
