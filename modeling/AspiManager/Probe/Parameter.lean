import AspiManager.Probe.Options
import AspiManager.Text.Numeral

/-!
# Parameters of the command line

The command line takes one device and five options that have a value. `Draft` collects the values
that were given; each may be given once. A value is checked when it is taken in.
-/

namespace AspiManager

namespace Probe

/-- Something that takes a value. -/
inductive Parameter where
  | device
  | config
  | logger
  | mode
  | allocation
  | page
  deriving DecidableEq, Repr

namespace Parameter

/-- How messages name a parameter. -/
def text : Parameter → String
  | device => "<cNtNdN>"
  | config => "--config <PATH>"
  | logger => "--logger <PATH>"
  | mode => "--mode <MODE>"
  | allocation => "--alloc <ALLOC>"
  | page => "--vpd <PAGE>"

/-- The parameters that are options, by name. -/
def options : List (String × Parameter) :=
  [("config", config), ("logger", logger), ("mode", mode), ("alloc", allocation), ("vpd", page)]

end Parameter

/-- Something that is asked for instead of a probe. -/
inductive Notice where
  /-- How to use the program; in full, or in short. -/
  | help (full : Bool)
  | version
  deriving DecidableEq, Repr

/-- Why a command line is not understood. -/
inductive ArgumentError where
  | noValue (parameter : Parameter)
  | repeated (parameter : Parameter)
  /-- The value is malformed. -/
  | badValue (parameter : Parameter) (value reason : String)
  /-- The value is none of the possible ones. -/
  | notAChoice (parameter : Parameter) (value : String)
  /-- There is no such option, or no place for another value. -/
  | unexpected (argument : String)
  /-- An option that takes no value has one. -/
  | unexpectedValue (option value : String)
  | noDevice
  deriving DecidableEq, Repr

/-- What is said about a command line that is not understood. -/
def ArgumentError.message : ArgumentError → String
  | noValue p => "a value is required for '" ++ p.text ++ "' but none was supplied"
  | repeated p => "the argument '" ++ p.text ++ "' cannot be used multiple times"
  | badValue p v reason => "invalid value '" ++ v ++ "' for '" ++ p.text ++ "': " ++ reason
  | notAChoice p v => "invalid value '" ++ v ++ "' for '" ++ p.text ++ "'"
  | unexpected a => "unexpected argument '" ++ a ++ "' found"
  | unexpectedValue o v =>
    "unexpected value '" ++ v ++ "' for '" ++ o ++ "' found; no more were expected"
  | noDevice => "the following required arguments were not provided:\n  " ++ Parameter.device.text

/-- The addressing modes by name. -/
def modeNames : List (String × AddressingMode) :=
  [("real", .realMode), ("protected", .protectedMode)]

/-- A page number: hexadecimal after `0x`, otherwise decimal. -/
def readPage (value : String) : Except ArgumentError UInt8 :=
  let number := match value.toList with
    | '0' :: 'x' :: digits | '0' :: 'X' :: digits => Numeral.natural 16 255 digits
    | digits => Numeral.natural 10 255 digits
  match number with
  | .ok n => .ok (UInt8.ofNat n)
  | .error e =>
    .error (.badValue .page value ("bad VPD page " ++ Quoted.text value ++ ": " ++ e.message))

/-- The length of an answer: a decimal number of one octet. -/
def readAllocation (value : String) : Except ArgumentError UInt8 :=
  match Numeral.integer 10 63 value.toList with
  | .error e => .error (.badValue .allocation value e.message)
  | .ok n =>
    if 0 ≤ n ∧ n ≤ 255 then .ok (UInt8.ofNat n.toNat)
    else .error (.badValue .allocation value (toString n ++ " is not in 0..=255"))

def readMode (value : String) : Except ArgumentError AddressingMode :=
  match modeNames.lookup value with
  | some mode => .ok mode
  | none => .error (if value.isEmpty then .noValue .mode else .notAChoice .mode value)

def readDevice (value : String) : Except ArgumentError DeviceKey :=
  match DeviceKey.parse? value with
  | some key => .ok key
  | none => .error (.badValue .device value (DeviceKey.badNameMessage value))

/-- The values given so far. -/
structure Draft where
  device : Option DeviceKey := none
  config : Option String := none
  logger : Option String := none
  mode : Option AddressingMode := none
  allocation : Option UInt8 := none
  page : Option UInt8 := none
  deriving DecidableEq, Repr

namespace Draft

/-- The parameter has a value. -/
def has (d : Draft) : Parameter → Bool
  | .device => d.device.isSome
  | .config => d.config.isSome
  | .logger => d.logger.isSome
  | .mode => d.mode.isSome
  | .allocation => d.allocation.isSome
  | .page => d.page.isSome

/-- Takes in a value for a parameter. -/
def set (d : Draft) (p : Parameter) (value : String) : Except ArgumentError Draft :=
  match p with
  | .device => return { d with device := some (← readDevice value) }
  | .config => return { d with config := some value }
  | .logger => return { d with logger := some value }
  | .mode => return { d with mode := some (← readMode value) }
  | .allocation => return { d with allocation := some (← readAllocation value) }
  | .page => return { d with page := some (← readPage value) }

/-- Takes in a value for a parameter that must have none yet. -/
def give (d : Draft) (p : Parameter) (value : String) : Except ArgumentError Draft :=
  if d.has p then .error (.repeated p) else d.set p value

/-- The options once all values are given; what is not given has its default. -/
def finish (d : Draft) : Except ArgumentError Options :=
  match d.device with
  | none => .error .noDevice
  | some device =>
    let o : Options := { device }
    .ok
      { device, config := d.config.getD o.config, logger := d.logger.getD o.logger
        mode := d.mode.getD o.mode, allocation := d.allocation.getD o.allocation, page := d.page }

end Draft

end Probe

end AspiManager
