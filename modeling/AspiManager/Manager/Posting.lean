import AspiManager.Manager.State
import AspiManager.Memory.Address
import AspiManager.Request.Error

/-!
# Posting

A request that asks for it has a post routine called when it is done, before the call that ran it
returns. The routine may work on the memory and run requests itself. It finds the request block in
protected mode: the selector that a real-mode block gets for that is given back afterwards.
-/

namespace AspiManager

namespace Manager

variable {σ : Type}

/-- The entry point that a request asks to be posted to. -/
def postEntry? (r : Request) : Option FarPtr := if r.posting then r.postProc else none

/-- Calls a routine. -/
def call (m : Manager σ) (entry routine : Nat) (call : PostCall) : Run σ Unit := do
  Run.record (.called entry call)
  m.routine routine call

/-- Calls a routine with the block of its request. -/
def callWithBlock (m : Manager σ) (mode : AddressingMode) (entry routine : Nat) (r : Request)
    (block : Block) : Run σ (Except PostError Unit) := do
  match (← Run.memory).postArgument mode block.ptr block.range with
  | .error e => return .error (.address e)
  | .ok (arg, memory) =>
    Run.setMemory memory
    m.call entry routine ⟨arg.srb, r⟩
    Run.setMemory ((← Run.memory).release arg)
    return .ok ()

/-- Calls the routine that a request asks for; says whether it asks for one. -/
def post (m : Manager σ) (mode : AddressingMode) (r : Request) (block : Option Block) :
    Run σ (Except PostError Bool) := do
  match postEntry? r with
  | none => return .ok false
  | some ptr =>
    match (← Run.memory).resolve mode ptr 1 with
    | .error e => return .error (.address e)
    | .ok range =>
      match (← get).routines.find? range.base with
      | none => return .error (.unknownEntry range.base)
      | some routine =>
        Run.report
          { level := .trace, source := .posting, message := "Post Routine called"
            fields := [("post_proc", .text ptr.text), ("entry", .int range.base)] }
        match block with
        | none =>
          m.call range.base routine ⟨.null, r⟩
          return .ok true
        | some block =>
          return (← m.callWithBlock mode range.base routine r block).map fun _ => true

end Manager

end AspiManager
