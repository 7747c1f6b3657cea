import AspiManager.Log.Event
import AspiManager.Manager.State
import AspiManager.Memory.Address
import AspiManager.Request.Error

/-!
# What a session reports

The outcome of each step, what the post routines saw, and what changed in memory and outside.
-/

namespace AspiManager

namespace Session

/-- The outcome of a step. -/
inductive Outcome where
  | nothing
  | count (n : Nat)
  | octets (bs : Bytes)
  | range (r : Range)
  | overlap
  | lengths (a b : Option Nat)
  | selector (s : UInt16)
  | descriptor (d : Descriptor)
  | argument (a : PostArgument)
  | addressError (e : AddressError)
  | status (s : Status)
  | submitted (r : Request)
  | table (t : Routines)
  | posted (ran : Bool)
  | postError (e : PostError)
  | handle (number : Nat) (h : Handle)
  | requestError (e : RequestError)
  | path (p : Option String)
  | info (adapter : Adapter) (registry : Registry)
  /-- The step broke down. -/
  | crashed

/-- What a post routine saw when it was called, and the outcomes of its steps, if it carried them
out. -/
structure PostReport where
  entry : Nat
  srb : FarPtr
  /-- The segment that the pointer goes through. -/
  descriptor : Option Descriptor
  /-- The front of the block. -/
  block : Option Bytes
  request : Request
  actions : Option (List Outcome) := none

/-- What a step left behind. -/
structure StepReport where
  outcome : Outcome
  memory : Memory
  /-- The runs of octets that the step changed. -/
  changes : List (Nat × Bytes)
  registry : Registry
  posts : List PostReport
  /-- The messages to devices, by path. -/
  writes : List (String × Bytes)
  events : List Log.Event

/-- The runs of octets of `after` that differ from `before`, below an address, in front of the runs
above it. -/
def runsBelow (before after : Memory) : Nat → List (Nat × Bytes) → List (Nat × Bytes)
  | 0, runs => runs
  | i + 1, runs =>
    let octet := after.octet i
    if before.octet i = octet then runsBelow before after i runs
    else match runs with
      | (start, octets) :: rest =>
        if start = i + 1 then runsBelow before after i ((i, octet :: octets) :: rest)
        else runsBelow before after i ((i, [octet]) :: runs)
      | [] => runsBelow before after i [(i, [octet])]

/-- The maximal runs of octets that differ. -/
def changedRuns (before after : Memory) : List (Nat × Bytes) :=
  runsBelow before after (max before.front.size after.front.size) []

end Session

end AspiManager
