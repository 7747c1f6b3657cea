import AspiManager.Device.Host

/-!
# Hosts that replay

A host that answers from the answers that are known so far. The first operation whose answer is not
known yet is noted, and fails. Whoever runs something against such a host carries out the operation
that was noted, adds its answer, and runs it again, until nothing is noted any more.
-/

namespace AspiManager

namespace Probe

/-- An operation of a host. -/
inductive Call where
  | openNode (path : String)
  | write (channel : Nat) (octets : Bytes)
  | read (channel count : Nat)
  deriving DecidableEq, Repr

/-- The answer to an operation. -/
inductive Reply where
  | opened (result : Except IoError Nat)
  | wrote (answer : Answer Nat)
  | gave (answer : Answer (Nat × Bytes))

/-- The answers to come, and the first operation without one. -/
structure Replay where
  known : List Reply := []
  wanted : Option Call := none

namespace Replay

/-- Notes an operation, unless one is noted already. -/
def want (c : Call) (r : Replay) : Replay := { r with wanted := r.wanted.or (some c) }

/-- What an operation gives whose answer is not known. -/
def unknown : IoError := .kind .other

def openNode (path : String) (r : Replay) : Except IoError Nat × Replay :=
  match r.known with
  | .opened result :: rest => (result, { r with known := rest })
  | _ => (.error unknown, r.want (.openNode path))

def write (channel : Nat) (octets : Bytes) (r : Replay) : Answer Nat × Replay :=
  match r.known with
  | .wrote answer :: rest => (answer, { r with known := rest })
  | _ => (.failed unknown, r.want (.write channel octets))

def read (channel count : Nat) (r : Replay) : Answer (Nat × Bytes) × Replay :=
  match r.known with
  | .gave answer :: rest => (answer, { r with known := rest })
  | _ => (.failed unknown, r.want (.read channel count))

/-- The host that replays. -/
def host : Host Replay := ⟨openNode, write, read⟩

end Replay

end Probe

end AspiManager
