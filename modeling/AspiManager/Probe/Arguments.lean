import AspiManager.Probe.Parameter

/-!
# Reading a command line

Arguments are read from left to right. An option takes its value after an equals sign, or from the
next argument unless that looks like an option. A value is only looked at when the next option
begins, so of two mistakes the one that is found first in this sense counts; an unknown argument is
reported before a value that waits. After `--` every argument is a device.
-/

namespace AspiManager

namespace Probe

/-- What an argument looks like. -/
inductive Word where
  /-- `--`: no option follows. -/
  | separator
  /-- `--name` or `--name=value`. -/
  | long (name : String) (value : Option String)
  /-- One dash and letters, of which the first one decides. -/
  | short (letter : Char)
  | plain (text : String)
  deriving DecidableEq, Repr

/-- The parts of `name=value`. -/
def Word.ofName (cs : List Char) : Word :=
  .long (String.ofList (cs.takeWhile (· ≠ '='))) <|
    match cs.dropWhile (· ≠ '=') with
    | [] => none
    | _ :: value => some (String.ofList value)

def Word.of (argument : String) : Word :=
  match argument.toList with
  | ['-', '-'] => .separator
  | '-' :: '-' :: name => .ofName name
  | '-' :: letter :: _ => .short letter
  | _ => .plain argument

/-- A parameter whose value, if it has come, is not looked at yet. -/
structure Waiting where
  parameter : Parameter
  value : Option String := none
  deriving DecidableEq, Repr

/-- What is known between two arguments. -/
structure Progress where
  draft : Draft := {}
  waiting : Option Waiting := none
  deriving DecidableEq, Repr

namespace Progress

/-- Looks at the value that waits. -/
def settle (p : Progress) : Except ArgumentError Draft :=
  match p.waiting with
  | none => .ok p.draft
  | some ⟨parameter, some value⟩ => p.draft.give parameter value
  | some ⟨parameter, none⟩ => .error (.noValue parameter)

/-- Whether a device was given. -/
def hasDevice (p : Progress) : Bool :=
  p.draft.device.isSome || p.waiting.any (·.parameter == .device)

/-- Takes an argument for the device. -/
def takeDevice (p : Progress) (text : String) : Except ArgumentError Progress := do
  if p.hasDevice then throw (.unexpected text)
  return ⟨← p.settle, some ⟨.device, some text⟩⟩

/-- Takes an argument that looks like no option. -/
def takePlain (p : Progress) (text : String) : Except ArgumentError Progress :=
  match p.waiting with
  | some ⟨parameter, none⟩ => .ok { p with waiting := some ⟨parameter, some text⟩ }
  | _ => p.takeDevice text

/-- Takes an option with a value, now or to come. -/
def takeOption (p : Progress) (parameter : Parameter) (value : Option String) :
    Except ArgumentError Progress := do
  let draft ← p.settle
  match value with
  | some value => return ⟨← draft.give parameter value, none⟩
  | none => return ⟨draft, some ⟨parameter, none⟩⟩

/-- Ends with a notice, if the value that waits is right. -/
def notify (p : Progress) (n : Notice) : Except ArgumentError Notice := do
  let _ ← p.settle
  return n

end Progress

/-- What a command line asks for. -/
inductive Invocation where
  | probe (options : Options)
  | notice (notice : Notice)
  deriving DecidableEq, Repr

/-- Reads the end of a command line, where every argument is a device. -/
def readDevices (p : Progress) : List String → Except ArgumentError Invocation
  | [] => return .probe (← (← p.settle).finish)
  | text :: rest => do readDevices (← p.takeDevice text) rest

/-- The notices that options ask for, by name. -/
def noticeNames : List (String × Notice) := [("help", .help true), ("version", .version)]

/-- The notices that single letters ask for. -/
def noticeLetters : List (Char × Notice) := [('h', .help false), ('V', .version)]

/-- Reads a command line. -/
def readArguments (p : Progress) : List String → Except ArgumentError Invocation
  | [] => return .probe (← (← p.settle).finish)
  | argument :: rest =>
    match Word.of argument with
    | .separator => readDevices p rest
    | .plain text => do readArguments (← p.takePlain text) rest
    | .short letter =>
      match noticeLetters.lookup letter with
      | some n => return .notice (← p.notify n)
      | none => .error (.unexpected ("-" ++ letter.toString))
    | .long name value =>
      match Parameter.options.lookup name, noticeNames.lookup name, value with
      | some parameter, _, _ => do readArguments (← p.takeOption parameter value) rest
      | none, some n, none => return .notice (← p.notify n)
      | none, some _, some value => .error (.unexpectedValue ("--" ++ name) value)
      | none, none, _ => .error (.unexpected ("--" ++ name))

/-- What the arguments of a command line ask for. -/
def Invocation.parse (arguments : List String) : Except ArgumentError Invocation :=
  readArguments {} arguments

end Probe

end AspiManager
