import AspiManager.Log.Line
import AspiManager.Probe.Program
import AspiManager.Probe.Replay

/-!
# The command line

Runs the program on the files and device nodes of the machine. Whatever the program wants of a
device is carried out here, and the program is run again with the answer.
-/

namespace AspiManager

namespace CommandLine

/-- The number of the operating system in a failure. -/
def errno : IO.Error → Nat
  | .alreadyExists _ n _ | .otherError n _ | .resourceBusy n _ | .resourceVanished n _
  | .unsupportedOperation n _ | .hardwareFault n _ | .unsatisfiedConstraints n _
  | .illegalOperation n _ | .protocolError n _ | .timeExpired n _ | .interrupted _ n _
  | .noFileOrDirectory _ n _ | .invalidArgument _ n _ | .permissionDenied _ n _
  | .resourceExhausted _ n _ | .inappropriateType _ n _ | .noSuchThing _ n _ => n.toNat
  | .unexpectedEof | .userError _ => 5

/-- The outcome of an action. -/
def attempt {α : Type} (act : IO α) : IO (Except IoError α) := do
  try return .ok (← act)
  catch e => return .error (.number (errno e))

/-- The open device nodes. -/
abbrev Handles := Array IO.FS.Handle

/-- Runs an action on a channel. -/
def onChannel {α : Type} (handles : Handles) (channel : Nat) (act : IO.FS.Handle → IO α) :
    IO (Answer α) := do
  match handles[channel]? with
  | none => return .failed (.number 9)
  | some handle =>
    match ← attempt (act handle) with
    | .ok a => return .done a
    | .error e => return .failed e

/-- Carries out an operation. -/
def carryOut (handles : Handles) : Probe.Call → IO (Probe.Reply × Handles)
  | .openNode path => do
    if path.contains '\x00' then return (.opened (.error .nulInPath), handles)
    match ← attempt (IO.FS.Handle.mk path .readWrite) with
    | .error e => return (.opened (.error e), handles)
    | .ok handle => return (.opened (.ok handles.size), handles.push handle)
  | .write channel octets => do
    let answer ← onChannel handles channel fun handle => do
      handle.write ⟨octets.toArray⟩
      handle.flush
      return octets.length
    return (.wrote answer, handles)
  | .read channel count => do
    let answer ← onChannel handles channel fun handle => do
      let octets ← handle.read (USize.ofNat count)
      return (octets.size, octets.toList)
    return (.gave answer, handles)

/-- The text of a file, if it can be read. -/
def textOf? (path : String) : IO (Option String) :=
  return (← attempt (IO.FS.readFile path)).toOption

/-- The texts of the files that a command line names. -/
def readTexts (arguments : List String) : IO (List (String × String)) := do
  match Probe.Invocation.parse arguments with
  | .ok (.probe o) =>
    let texts ← [o.logger, o.config].filterMapM fun path => do
      return (← textOf? path).map fun text => (path, text)
    return texts
  | _ => return []

/-- Runs the program until it wants nothing of a device any more. It opens, writes and reads once
at most. -/
def converse (texts : List (String × String)) (arguments : List String) :
    Nat → List Probe.Reply → Handles → IO (Probe.Outcome Probe.Replay)
  | rounds, replies, handles => do
    let outcome := Probe.runProgram ⟨(texts.lookup ·), Probe.Replay.host, ⟨replies, none⟩⟩ arguments
    match rounds, outcome.world.wanted with
    | rounds + 1, some call =>
      let (reply, handles) ← carryOut handles call
      converse texts arguments rounds (replies ++ [reply]) handles
    | _, _ => return outcome

/-- The directory part of a path. -/
def directoryOf (path : String) : String :=
  String.intercalate "/" (path.splitOn "/").dropLast

/-- Adds lines to the log file. -/
def appendLines (path : String) (lines : List String) : IO Unit := do
  unless (directoryOf path).isEmpty do IO.FS.createDirAll (directoryOf path)
  let handle ← IO.FS.Handle.mk path .append
  lines.forM handle.putStrLn

/-- Writes the log records of a run to where its logger sends them. -/
def writeRecords (o : Probe.Outcome Probe.Replay) : IO Unit := do
  match o.logger with
  | none => return
  | some logger =>
    let lines := (logger.records none o.events).map Log.Record.lineText
    match logger.settings.output, logger.settings.file with
    | .stdout, _ => lines.forM fun line => IO.println line
    | .stderr, _ => lines.forM fun line => IO.eprintln line
    | .file, some file => appendLines file.path lines
    | .file, none => return

/-- Runs the program with the arguments of the command line, and gives its exit code. -/
def run (arguments : List String) : IO UInt32 := do
  let texts ← readTexts arguments
  let outcome ← converse texts arguments 8 [] #[]
  writeRecords outcome
  outcome.lines.forM fun line => IO.println line
  match outcome.failure with
  | some e => IO.eprintln e.message
  | none => pure ()
  return outcome.exitCode.toUInt32

end CommandLine

end AspiManager

def main (arguments : List String) : IO UInt32 := AspiManager.CommandLine.run arguments
