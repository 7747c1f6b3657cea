import AspiManager.Config.Document
import AspiManager.Files.Channel
import AspiManager.Log.Logger
import AspiManager.Probe.Arguments
import AspiManager.Probe.Help
import AspiManager.Probe.Inquire

/-!
# The program

A run of the program: it reads the command line, sets up the logger, reads the configuration, and
probes the device. The first of these that fails ends it. What the program runs in is given as a way
to read texts and a host for the device nodes.
-/

namespace AspiManager

namespace Probe

/-- What the program runs in, with hosts that have states of type `σ`. -/
structure Surroundings (σ : Type) where
  /-- The text of the file at a path, if it can be read. -/
  text? : String → Option String
  host : Host σ
  world : σ

/-- The files of a volume to run in. -/
def Surroundings.ofVolume (v : Files.Volume) : Surroundings Files.Volume :=
  ⟨v.tree.text?, Files.Volume.host, v⟩

/-- Why the program fails. -/
inductive ProgramError where
  | arguments (cause : ArgumentError)
  | logger (cause : Log.SetupError)
  | config
  | probe (cause : Failure)
  /-- The probe broke down. -/
  | fault (cause : Fault)
  deriving DecidableEq, Repr

namespace ProgramError

/-- What is said about a failure. -/
def message : ProgramError → String
  | arguments e => "error: " ++ e.message
  | logger e => "Error: " ++ e.message
  | config => "Error: failed to resolve or load config"
  | probe e => "Error: " ++ e.message
  | fault _ => "Error: the probe broke down"

def exitCode : ProgramError → UInt8
  | arguments _ => 2
  | logger _ | config | probe _ => 1
  | fault _ => 101

end ProgramError

/-- What a run of the program leaves. -/
structure Outcome (σ : Type) where
  lines : List String := []
  failure : Option ProgramError := none
  logger : Option Log.Logger := none
  /-- What was reported, in order. -/
  events : List Log.Event := []
  /-- What was done, in order. -/
  effects : List Effect := []
  world : σ

namespace Outcome

variable {σ : Type}

def exitCode (o : Outcome σ) : UInt8 := o.failure.elim 0 ProgramError.exitCode

/-- The log records that go to an output. -/
def records (o : Outcome σ) (output : Log.Output) : List Log.Record :=
  match o.logger with
  | some logger => logger.sentTo output (logger.records none o.events)
  | none => []

end Outcome

variable {σ : Type}

/-- The manager of a configuration. No post routines are registered. -/
def manager (host : Host σ) (c : Config) : Manager σ :=
  ⟨host, c.devicePath, c.adapter, fun _ _ => return ()⟩

/-- Probes a device with a configuration. -/
def probe (s : Surroundings σ) (logger : Log.Logger) (c : Config) (o : Options) : Outcome σ :=
  let (result, state) := ((inquire (manager s.host c) o).run).run
    { memory := .zeroed memorySize, world := s.world }
  let left : Outcome σ :=
    { logger := some logger, events := state.events.toList, effects := state.effects.toList
      world := state.world }
  match result with
  | .ok r => { left with lines := r.lines, failure := r.failure.map ProgramError.probe }
  | .error e => { left with failure := some (.fault e) }

/-- The configuration in the file at a path. -/
def readConfig (s : Surroundings σ) (path : String) : Option Config := do
  (Config.ofText (← s.text? path)).toOption

/-- Runs the program with options. -/
def runOptions (s : Surroundings σ) (o : Options) : Outcome σ :=
  match Log.Logger.setUp o.logger (s.text? o.logger) with
  | .error e => { failure := some (.logger e), world := s.world }
  | .ok logger =>
    match readConfig s o.config with
    | none => { failure := some .config, logger := some logger, world := s.world }
    | some c => probe s logger c o

/-- Runs the program with the arguments of a command line. -/
def runProgram (s : Surroundings σ) (arguments : List String) : Outcome σ :=
  match Invocation.parse arguments with
  | .error e => { failure := some (.arguments e), world := s.world }
  | .ok (.notice n) => { lines := n.lines, world := s.world }
  | .ok (.probe o) => runOptions s o

end Probe

end AspiManager
