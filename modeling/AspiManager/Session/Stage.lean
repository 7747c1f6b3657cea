import AspiManager.Device.Host
import AspiManager.Manager.State
import AspiManager.Sg.Message

/-!
# Scripted devices

A stage stands in for real devices. Each path has a script of steps; a channel to the path takes the
next step with every write, and that step also gives the answer to the read that follows. All
channels to one path share its script.
-/

namespace AspiManager

/-- What a scripted device does with a message. -/
inductive DeviceStep where
  /-- Answers with a header and a payload, cut or filled up to what is asked for. -/
  | reply (result : Int32) (sense payload : Bytes)
  /-- Answers with octets as they are. -/
  | raw (octets : Bytes)
  /-- Takes only a part of the message. -/
  | shortWrite (count : Nat)
  | writeError (error : IoError)
  /-- Breaks down. -/
  | crash
  /-- Answers with fewer octets than asked for, all zero. -/
  | shortRead (count : Nat)
  | readError (error : IoError)
  deriving DecidableEq, Repr

/-- The script of a path: the steps to come, and the step that answers the next read. -/
structure Script where
  steps : List DeviceStep := []
  pending : Option DeviceStep := none
  deriving DecidableEq, Repr

namespace Script

/-- What the script makes of a message of some length. -/
def write (s : Script) (length : Nat) : Answer Nat × Script :=
  match s.steps with
  | [] => (.failed (.kind .brokenPipe), ⟨[], none⟩)
  | .shortWrite n :: rest => (.done (min n length), ⟨rest, none⟩)
  | .writeError e :: rest => (.failed e, ⟨rest, none⟩)
  | .crash :: rest => (.crashed, ⟨rest, none⟩)
  | d :: rest => (.done length, ⟨rest, some d⟩)

/-- The reply of a scripted device. -/
def replyOctets (result : Int32) (sense payload : Bytes) : Bytes :=
  Sg.Reply.toBytes ⟨{ result := result, sense := Bytes.field sense 16 0 }, payload⟩

/-- What the script gives to a reader of `count` octets. -/
def read (s : Script) (count : Nat) : Answer (Nat × Bytes) × Script :=
  let s' : Script := { s with pending := none }
  match s.pending with
  | some (.reply result sense payload) =>
    (.done (count, Bytes.fit count (replyOctets result sense payload)), s')
  | some (.raw octets) => (.done (min octets.length count, octets.take count), s')
  | some (.shortRead n) => (.done (min n count, []), s')
  | some (.readError e) => (.failed e, s')
  | some (.shortWrite _) | some (.writeError _) | some .crash | none =>
    (.failed (.kind .unexpectedEof), s')

end Script

/-- The scripts of all paths, which opens fail, and the path of each channel. -/
structure Devices where
  scripts : List (String × Script) := []
  failures : List (String × IoError) := []
  channels : Array String := #[]
  deriving DecidableEq, Repr

namespace Devices

def script (d : Devices) (path : String) : Script := (d.scripts.lookup path).getD {}

def setScript (d : Devices) (path : String) (s : Script) : Devices :=
  { d with scripts := (path, s) :: d.scripts.filter (·.1 != path) }

/-- Adds a step to the end of a script. -/
def push (d : Devices) (path : String) (step : DeviceStep) : Devices :=
  let s := d.script path
  d.setScript path { s with steps := s.steps ++ [step] }

/-- Lets the opens of a path fail, or succeed again. -/
def setFailure (d : Devices) (path : String) (e : Option IoError) : Devices :=
  let others := d.failures.filter (·.1 != path)
  { d with failures := (e.toList.map fun e => (path, e)) ++ others }

/-- The path of a channel. -/
def pathOf (d : Devices) (channel : Nat) : String := d.channels.getD channel ""

def openNode (path : String) (d : Devices) : Except IoError Nat × Devices :=
  match d.failures.lookup path with
  | some e => (.error e, d)
  | none => (.ok d.channels.size, { d with channels := d.channels.push path })

def write (channel : Nat) (octets : Bytes) (d : Devices) : Answer Nat × Devices :=
  let path := d.pathOf channel
  let (answer, s) := (d.script path).write octets.length
  (answer, d.setScript path s)

def read (channel count : Nat) (d : Devices) : Answer (Nat × Bytes) × Devices :=
  let path := d.pathOf channel
  let (answer, s) := (d.script path).read count
  (answer, d.setScript path s)

end Devices

end AspiManager
