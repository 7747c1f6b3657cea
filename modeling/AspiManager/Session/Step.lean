import AspiManager.Memory.Address
import AspiManager.Session.Stage
import AspiManager.Srb.Exec

/-!
# Steps of a session

A session is a list of steps on one memory and one manager: direct work on the memory, and calls of
the manager. A registered post routine is itself a list of steps, which it carries out for a number
of its calls.
-/

namespace AspiManager

namespace Session

/-- Direct work on the caller's memory. -/
inductive MemoryStep where
  | write (base : Nat) (data : Bytes)
  | read (base len : Nat)
  | linear (base len : Nat) (ptr : FarPtr)
  | slice (range : Range)
  | fill (range : Range) (value : UInt8)
  /-- Takes two windows at once, and fills the first with 0xAA and the second with 0xBB. -/
  | pair (a b : Option Range)
  | alloc (base len count : Nat)
  | free (selector : UInt16)
  | descriptor (selector : UInt16)
  | resolve (mode : AddressingMode) (ptr : FarPtr) (len : Nat)
  | postArgument (mode : AddressingMode) (srb : FarPtr) (range : Range)
  | release (arg : PostArgument)
  deriving DecidableEq, Repr

/-- A step of a session. -/
inductive Step where
  | memory (step : MemoryStep)
  /-- Puts a request block into the memory, with some octets of it changed. -/
  | place (base : Nat) (block : Srb.Draft) (changes : List (Nat × UInt8))
  | send (mode : AddressingMode) (srb : FarPtr)
  | submit (mode : AddressingMode) (request : Request)
  /-- Registers a post routine that carries out its steps in the first `times` calls. -/
  | register (entry : Nat) (actions : List Step) (times : Nat)
  | notify (mode : AddressingMode) (request : Request) (block : Option Block)
  /-- Adds a step to the script of a device. -/
  | push (path : String) (step : DeviceStep)
  | openFail (path : String) (error : Option IoError)
  | acquire (key : DeviceKey)
  | lookup (key : DeviceKey)
  | info

mutual

/-- How often post routines can carry out steps because of one step. -/
def Step.weight : Step → Nat
  | .register _ actions times => times * (1 + weightAll actions)
  | _ => 0

/-- How often post routines can carry out steps because of some steps. -/
def weightAll : List Step → Nat
  | [] => 0
  | s :: rest => s.weight + weightAll rest

end

end Session

end AspiManager
