import AspiManager.Proofs.Block
import AspiManager.Proofs.Posting

/-!
# Calls of a manager

The two ways in which a caller has a request executed are put together here: it hands over the
request, or the address of a block (`Call`). `Call.Asks` is the request that a call asks for.

* `Manager.perform_exec`: a call that asks for a request executes it.
* `Manager.perform_of_not`: calls that ask for none reach no device and call no routine.
* `Manager.Silent`: no post routine is called.
-/

namespace AspiManager

/-- A request that is handed over, or the address of a block. -/
inductive Call where
  | submit (r : Request)
  | send (srb : FarPtr)

namespace Call

/-- The request that a call asks for, with the block that it is in. -/
inductive Asks (m : Memory) (mode : AddressingMode) : Call → Request → Option Block → Prop
  | submit (r : Request) : Asks m mode (.submit r) r none
  | send {srb : FarPtr} {e : Srb.Exec} {range : Range} (h : BlockAt m mode srb e range) :
    Asks m mode (.send srb) (e.requestIn m srb range) (some ⟨srb, range⟩)

/-- The call is meant to execute a request. -/
def Executes (m : Memory) (mode : AddressingMode) : Call → Prop
  | submit _ => True
  | send srb => ExecutesAt m mode srb

theorem Asks.fits {m : Memory} {mode : AddressingMode} {call : Call} {r : Request}
    {block : Option Block} (h : call.Asks m mode r block) : ∀ b, block = some b → b.Fits m := by
  intro b hb
  cases h with
  | submit => cases hb
  | send h => cases hb; exact h.fits

theorem Asks.unique {m : Memory} {mode : AddressingMode} {call : Call} {r r' : Request}
    {block block' : Option Block} (h : call.Asks m mode r block)
    (h' : call.Asks m mode r' block') : r = r' ∧ block = block' := by
  cases h with
  | submit => cases h'; exact ⟨rfl, rfl⟩
  | send h =>
    cases h' with
    | send h' =>
      obtain ⟨rfl, rfl⟩ := h.unique h'
      exact ⟨rfl, rfl⟩

end Call

namespace Manager

variable {σ : Type}

/-- Runs a call; gives the status that the caller sees. -/
def perform (m : Manager σ) (mode : AddressingMode) : Call → Run σ Status
  | .submit r => return (← m.submit mode r).status
  | .send srb => m.send mode srb

/-- No post routine is called: the run is the same whatever the routines do. -/
def Silent (m : Manager σ) (mode : AddressingMode) (call : Call) (s : State σ) : Prop :=
  ∀ f, ((m.withRoutines f).perform mode call).exec s = (m.perform mode call).exec s

variable {m : Manager σ} {mode : AddressingMode} {call : Call} {r : Request}
  {block : Option Block} {s t : State σ} {st : Status}

theorem silent_of_forall {o : Except Fault Status × State σ}
    (h : ∀ f, ((m.withRoutines f).perform mode call).exec s = o) : m.Silent mode call s :=
  fun f => (h f).trans (h m.routine).symm

theorem perform_exec (m : Manager σ) (ha : call.Asks s.memory mode r block)
    (f : Nat → PostCall → Run σ Unit) :
    ((m.withRoutines f).perform mode call).exec s =
      (do return (← (m.withRoutines f).execute mode r block).status).exec s := by
  cases ha with
  | submit => rfl
  | send h => exact m.send_exec h f

/-- Calls that ask for no request reach no device and call no routine. -/
theorem perform_of_not (m : Manager σ) (h : ¬ ∃ r block, call.Asks s.memory mode r block) :
    ∃ o memory es, (call.Executes s.memory mode → o = .ok .invalid) ∧
      ∀ f, ((m.withRoutines f).perform mode call).exec s =
        (o, { s with memory := memory, events := es }) := by
  cases call with
  | submit r => exact absurd ⟨r, none, .submit r⟩ h
  | send srb => exact m.send_exec_of_not fun ⟨_, _, hb⟩ => h ⟨_, _, .send hb⟩

theorem exec_status {x y : Run σ Request} {u : State σ} (h : x.exec s = y.exec u) :
    (do return (← x).status : Run σ Status).exec s = (Request.status <$> y).exec u := by
  rw [Run.exec_bind, Run.exec_map, h]
  rfl

theorem status_settle (r : Request) (st : Status) : (r.settle st).status = st := by
  cases st <;> rfl

theorem posting_settle (r : Request) (st : Status) : (r.settle st).posting = r.posting := by
  cases st <;> rfl

end Manager

/-! ## A host that always answers -/

/-- Every node opens, every message is taken, and every reply has the same octets. -/
def Host.constant (reply : Bytes) : Host Unit where
  openNode _ w := (.ok 0, w)
  write _ octets w := (.done octets.length, w)
  read _ count w := (.done (count, reply), w)

/-- A manager with one node for all devices and post routines that do nothing. -/
def Manager.constant (reply : Bytes) : Manager Unit :=
  { host := .constant reply, directory := fun _ => some "/dev/sg2", adapter := {}
    routine := fun _ _ => pure () }

/-- The state in which a memory is first used. -/
def State.initial (memory : Memory) : State Unit := { memory := memory, world := () }

/-- A read of 4 octets, with room for 16 octets of sense data behind them. -/
def shortRead : Request :=
  { target := 2, flags := ⟨8⟩, cdb := [0x12, 0, 0, 0, 4, 0], data := ⟨⟨0, 0x10⟩, 4⟩
    sense := ⟨⟨0, 0x14⟩, 16⟩ }

end AspiManager
