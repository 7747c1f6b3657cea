import AspiManager.Probe.Parameter

/-!
# Notices

What the program prints about itself when it is asked to: how to use it, in short or in full, and
its version.
-/

namespace AspiManager

namespace Probe

def programName : String := "aspi-inquiry"

def programVersion : String := "0.1.0"

/-- What is said about each parameter. -/
def Parameter.help : Parameter → String
  | device => "Device triple, e.g. \x60c0t2d0\x60"
  | config => "Device map and adapter settings"
  | logger => "Logger settings"
  | mode => "Addressing convention the SRB is placed with"
  | allocation => "INQUIRY allocation length"
  | page => "Ask for this VPD page instead of the standard data"

/-- The value of a parameter that is not given. -/
def Parameter.defaultText : Parameter → Option String
  | device | page => none
  | config => some "tests/config.yaml"
  | logger => some "tests/config_logger.yaml"
  | mode => some "real"
  | allocation => some "36"

/-- What is said about each addressing mode. -/
def modeHelp : List (String × String) :=
  [("real", "DOS real-mode caller"), ("protected", "Win16 protected-mode caller")]

/-- A text filled up with spaces. -/
def padded (width : Nat) (s : String) : String :=
  s ++ String.ofList (List.replicate (width - s.length) ' ')

/-- What precedes the lists of parameters. -/
def helpHead : List String :=
  ["Send a standard INQUIRY to an sg device through the ASPI layer", "",
    "Usage: " ++ programName ++ " [OPTIONS] " ++ Parameter.device.text, ""]

/-- The notices as the help lists them, with what is said about them in short and in full. -/
def helpNotices : List (String × String × String) :=
  [("-h, --help", "Print help (see more with '--help')", "Print help (see a summary with '-h')"),
    ("-V, --version", "Print version", "Print version")]

/-- The short line of an option. -/
def shortOption (p : Parameter) : String :=
  "      " ++ padded 17 p.text ++ p.help ++
    (p.defaultText.elim "" fun d => " [default: " ++ d ++ "]") ++
    (if p = .mode then
      " [possible values: " ++ String.intercalate ", " (modeNames.map Prod.fst) ++ "]" else "")

/-- How to use the program, in short. -/
def shortHelp : List String :=
  helpHead ++
    ["Arguments:", "  " ++ Parameter.device.text ++ "  " ++ Parameter.device.help, "",
      "Options:"] ++
    (Parameter.options.map fun (_, p) => shortOption p) ++
    (helpNotices.map fun (name, short, _) => "  " ++ padded 21 name ++ short)

/-- The lines of an option in full. -/
def fullOption (p : Parameter) : List String :=
  ["      " ++ p.text, "          " ++ p.help] ++
    (p.defaultText.elim [] fun d => ["          ", "          [default: " ++ d ++ "]"]) ++
    (if p = .mode then
      ["", "          Possible values:"] ++
        modeHelp.map (fun (name, help) => "          - " ++ padded 11 (name ++ ":") ++ help)
    else []) ++ [""]

/-- How to use the program, in full. -/
def fullHelp : List String :=
  helpHead ++
    ["Arguments:", "  " ++ Parameter.device.text, "          " ++ Parameter.device.help, "",
      "Options:"] ++
    (Parameter.options.flatMap fun (_, p) => fullOption p) ++
    List.intercalate [""]
      (helpNotices.map fun (name, _, full) => ["  " ++ name, "          " ++ full])

/-- The lines of a notice. -/
def Notice.lines : Notice → List String
  | help true => fullHelp
  | help false => shortHelp
  | version => [programName ++ " " ++ programVersion]

end Probe

end AspiManager
