import AspiManager.Config.Adapter
import AspiManager.Device.Host
import AspiManager.Device.Registry
import AspiManager.Log.Event
import AspiManager.Memory.Arena
import AspiManager.Memory.FarPtr
import AspiManager.Request.Basic

/-!
# Managers and their state

A manager is fixed: the host behind the device nodes, the directory that lists the nodes, what the
adapter says about itself, and what post routines do. A run works on a `State`: the caller's memory,
the open devices, the registered routines, the state of the host, and what was reported and done so
far. A run that breaks down keeps the state it had reached.
-/

namespace AspiManager

/-- Where the block of a request is: the caller's pointer, and its range. -/
structure Block where
  ptr : FarPtr
  range : Range
  deriving DecidableEq, Repr

/-- What a post routine is told: the pointer to the block, null if there is none, and the
request. -/
structure PostCall where
  srb : FarPtr
  request : Request
  deriving DecidableEq, Repr

/-- The registered post routines: a number for each linear address, the latest first. -/
structure Routines where
  entries : List (Nat × Nat) := []
  deriving DecidableEq, Repr

namespace Routines

/-- The routine at an address. -/
def find? (t : Routines) (entry : Nat) : Option Nat := t.entries.lookup entry

/-- Puts a routine at an address, in place of the one that was there. -/
def register (t : Routines) (entry routine : Nat) : Routines :=
  ⟨(entry, routine) :: t.entries.filter (·.1 != entry)⟩

def size (t : Routines) : Nat := t.entries.length

/-- The dump of the table: the addresses in order. -/
def text (t : Routines) : String :=
  let addresses := (t.entries.map Prod.fst).mergeSort
  Record.text "PostRoutineTable" [("entries", Record.list (addresses.map toString))]

end Routines

/-- Something that a run did outside the caller's memory. -/
inductive Effect where
  /-- The node at a path was to be opened. -/
  | opened (path : String)
  /-- Octets were offered to a channel. -/
  | wrote (channel : Nat) (octets : Bytes)
  /-- A channel was asked for octets. -/
  | asked (channel : Nat) (count : Nat)
  /-- The post routine at an address was called. -/
  | called (entry : Nat) (call : PostCall)
  deriving DecidableEq, Repr

/-- What a run works on, with hosts that have states of type `σ`. -/
structure State (σ : Type) where
  memory : Memory
  registry : Registry := {}
  routines : Routines := {}
  world : σ
  /-- What was reported, in order. -/
  events : Array Log.Event := #[]
  /-- What was done, in order. -/
  effects : Array Effect := #[]

/-- A run from a state to a value and a state, which a fault may cut short. -/
abbrev Run (σ : Type) := ExceptT Fault (StateM (State σ))

/-- What is fixed while requests are run. -/
structure Manager (σ : Type) where
  host : Host σ
  /-- The path of the node of a device, if the device is listed. -/
  directory : DeviceKey → Option String
  adapter : Adapter
  /-- What the post routine of a number does. -/
  routine : Nat → PostCall → Run σ Unit

namespace Run

variable {σ : Type}

/-- Reports an event. -/
def report (e : Log.Event) : Run σ Unit := modify fun s => { s with events := s.events.push e }

/-- Reports events in order. -/
def reportAll (es : List Log.Event) : Run σ Unit :=
  modify fun s => { s with events := s.events ++ es }

/-- Records that something was done. -/
def record (e : Effect) : Run σ Unit := modify fun s => { s with effects := s.effects.push e }

def memory : Run σ Memory := return (← get).memory

def setMemory (m : Memory) : Run σ Unit := modify fun s => { s with memory := m }

def setRegistry (r : Registry) : Run σ Unit := modify fun s => { s with registry := r }

/-- A step of the host. -/
def host {α : Type} (f : σ → α × σ) : Run σ α := do
  let (a, world) := f (← get).world
  modify fun s => { s with world := world }
  return a

/-- The octets of a range of the caller's memory. -/
def slice (r : Range) : Run σ Bytes := do liftExcept ((← memory).slice r)
where
  liftExcept {α : Type} (e : Except Fault α) : Run σ α := ExceptT.mk (pure e)

/-- Puts octets in the place of a range of the caller's memory. -/
def replace (r : Range) (data : Bytes) : Run σ Unit := do
  setMemory (← ExceptT.mk (pure ((← memory).replace r data)))

end Run

end AspiManager
