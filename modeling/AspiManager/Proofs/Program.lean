import AspiManager.Proofs.PostRoutine
import Mathlib.Data.List.Forall2

/-!
# Programs of a caller

A caller, and each of its post routines, is a `Program`: it looks at the state, writes to the
memory, allocates and frees selectors, registers routines, and calls the manager, which may call
routines in turn. `Manager.play` runs a program with a repertoire that says which program each
routine is, with calls nested up to a depth.

`Course` says what such a run does, moment by moment: it lists each act of the program and of the
routines that run inside it, with the state in which it is done and the selectors that the running
routines hold. `play_course` says that every run has its course, so that what holds of all courses
holds of all runs. `State.Reached.course` is one such fact: a run leads from states that a caller
can reach to states that it can reach. `Course.tally` is about what adds up along a run: the run
does what its moments do, one after the other.
-/

namespace AspiManager

/-! ## Programs -/

/-- Something that a caller does itself. -/
inductive Deed where
  /-- It puts octets into its memory. -/
  | write (base : Nat) (bs : Bytes)
  | allocate (base len : Nat)
  | free (s : UInt16)
  /-- It puts a routine at a linear address. -/
  | register (entry routine : Nat)
  deriving DecidableEq, Repr

/-- What a deed does to a memory. -/
def Memory.perform (m : Memory) : Deed → Memory
  | .write base bs => (m.write base bs).2
  | .allocate base len =>
    match m.allocSelector base len with
    | .ok (_, m) => m
    | .error _ => m
  | .free s => m.freeSelector s
  | .register .. => m

/-- What a deed does to the registered routines. -/
def Routines.perform (t : Routines) : Deed → Routines
  | .register entry routine => t.register entry routine
  | .write .. | .allocate .. | .free _ => t

/-- The state after a deed. -/
def State.perform {σ : Type} (s : State σ) (d : Deed) : State σ :=
  { s with memory := s.memory.perform d, routines := s.routines.perform d }

/-- A program of a caller. -/
inductive Program (σ : Type) where
  | done
  /-- It goes on as the state tells. -/
  | look (k : State σ → Program σ)
  | deed (d : Deed) (next : Program σ)
  /-- It calls the manager and goes on as the status tells. -/
  | call (mode : AddressingMode) (call : Call) (next : Status → Program σ)

/-- The program of each post routine. -/
abbrev Repertoire (σ : Type) := Nat → PostCall → Program σ

/-- A run of a program with a manager. -/
def Program.run {σ : Type} (m : Manager σ) : Program σ → Run σ Unit
  | done => return ()
  | look k => do (k (← get)).run m
  | deed d next => do
    modify fun s => s.perform d
    next.run m
  | call mode c next => do (next (← m.perform mode c)).run m

namespace Manager

variable {σ : Type}

/-- The routines of a repertoire, with calls nested up to a depth. -/
def routines (m : Manager σ) (rep : Repertoire σ) : Nat → Nat → PostCall → Run σ Unit
  | 0, _, _ => throw .nesting
  | depth + 1, n, c => (rep n c).run (m.withRoutines (m.routines rep depth))

/-- A run of a program whose post routines are those of a repertoire. -/
def play (m : Manager σ) (rep : Repertoire σ) (depth : Nat) (p : Program σ) : Run σ Unit :=
  p.run (m.withRoutines (m.routines rep depth))

end Manager

/-! ## Courses -/

/-- A selector that a running routine was handed for a block: where the block is for its caller, the
memory in which the caller sent it, and the selector. -/
structure Alias where
  srb : FarPtr
  before : Memory
  selector : UInt16

/-- Something that a program does. -/
inductive Act where
  | deed (d : Deed)
  | call (mode : AddressingMode) (call : Call)
  /-- It ends. -/
  | finish

/-- A moment of a run: what is done, in which state, and the selectors that the running routines
hold, the latest first. -/
structure Moment (σ : Type) where
  held : List Alias
  act : Act
  state : State σ

/-- The selectors that are held while the routine of a call runs, which was told `srb`: a block that
was sent in real mode has one. -/
def Call.hand (mode : AddressingMode) (call : Call) (before : Memory) (srb : FarPtr)
    (held : List Alias) : List Alias :=
  match mode, call with
  | .realMode, .send ptr => ⟨ptr, before, srb.segment⟩ :: held
  | _, _ => held

/-- The course of a run: its moments, its outcome, and the state that it leaves. -/
inductive Course {σ : Type} (m : Manager σ) (rep : Repertoire σ) : Nat → List Alias → Program σ →
    State σ → List (Moment σ) → Except Fault Unit → State σ → Prop
  | done {depth : Nat} {held : List Alias} {s : State σ} :
    Course m rep depth held .done s [⟨held, .finish, s⟩] (.ok ()) s
  | look {depth : Nat} {held : List Alias} {k : State σ → Program σ} {s t : State σ}
    {ms : List (Moment σ)} {o : Except Fault Unit} (h : Course m rep depth held (k s) s ms o t) :
    Course m rep depth held (.look k) s ms o t
  | deed {depth : Nat} {held : List Alias} {d : Deed} {next : Program σ} {s t : State σ}
    {ms : List (Moment σ)} {o : Except Fault Unit}
    (h : Course m rep depth held next (s.perform d) ms o t) :
    Course m rep depth held (.deed d next) s (⟨held, .deed d, s⟩ :: ms) o t
  /-- A call without a posting. -/
  | call {depth : Nat} {held : List Alias} {mode : AddressingMode} {call : Call}
    {next : Status → Program σ} {s u t : State σ} {st : Status} {ms : List (Moment σ)}
    {o : Except Fault Unit} (turn : m.Turn mode call s (.ok st) u none)
    (h : Course m rep depth held (next st) u ms o t) :
    Course m rep depth held (.call mode call next) s (⟨held, .call mode call, s⟩ :: ms) o t
  /-- A call in which the host breaks down. -/
  | crashed {depth : Nat} {held : List Alias} {mode : AddressingMode} {call : Call}
    {next : Status → Program σ} {s u : State σ} {e : Fault}
    (turn : m.Turn mode call s (.error e) u none) :
    Course m rep depth held (.call mode call next) s [⟨held, .call mode call, s⟩] (.error e) u
  /-- A posting that is nested too deep. -/
  | tooDeep {held : List Alias} {mode : AddressingMode} {call : Call} {next : Status → Program σ}
    {s u : State σ} {st : Status} {q : Posting} (turn : m.Turn mode call s (.ok st) u (some q)) :
    Course m rep 0 held (.call mode call next) s [⟨held, .call mode call, s⟩] (.error .nesting)
      (u.entering q)
  /-- A call with a posting: the routine runs, and then the program goes on. -/
  | posted {depth : Nat} {held : List Alias} {mode : AddressingMode} {call : Call}
    {next : Status → Program σ} {s u v t : State σ} {st : Status} {q : Posting}
    {inner ms : List (Moment σ)} {o : Except Fault Unit}
    (turn : m.Turn mode call s (.ok st) u (some q))
    (run : Course m rep depth (call.hand mode s.memory q.call.srb held)
      (rep q.routine q.call) (u.entering q) inner (.ok ()) v)
    (h : Course m rep (depth + 1) held (next st) (v.leaving q) ms o t) :
    Course m rep (depth + 1) held (.call mode call next) s
      (⟨held, .call mode call, s⟩ :: (inner ++ ms)) o t
  /-- A call whose routine breaks down. -/
  | broken {depth : Nat} {held : List Alias} {mode : AddressingMode} {call : Call}
    {next : Status → Program σ} {s u v : State σ} {st : Status} {q : Posting}
    {inner : List (Moment σ)} {e : Fault} (turn : m.Turn mode call s (.ok st) u (some q))
    (run : Course m rep depth (call.hand mode s.memory q.call.srb held)
      (rep q.routine q.call) (u.entering q) inner (.error e) v) :
    Course m rep (depth + 1) held (.call mode call next) s
      (⟨held, .call mode call, s⟩ :: inner) (.error e) v

namespace Manager

variable {σ : Type} {m : Manager σ} {rep : Repertoire σ}

/-- A call that comes to `finish` goes on, or ends the run. -/
theorem exec_call {f : Nat → PostCall → Run σ Unit} {mode : AddressingMode} {call : Call}
    {next : Status → Program σ} {s u : State σ} {o : Except Fault Status} {p : Option Posting}
    (h : ((m.withRoutines f).perform mode call).exec s = finish f o u p) :
    ((Program.call mode call next).run (m.withRoutines f)).exec s =
      match finish f o u p with
      | (.ok st, t) => ((next st).run (m.withRoutines f)).exec t
      | (.error e, t) => (.error e, t) := by
  have hb := Run.exec_bind ((m.withRoutines f).perform mode call)
    (fun st => (next st).run (m.withRoutines f)) s
  rw [h] at hb
  refine Eq.trans ?_ (hb.trans ?_)
  · rfl
  · rcases finish f o u p with ⟨_ | _, t⟩ <;> rfl

/-- Every run of a program has its course. -/
theorem play_course (m : Manager σ) (rep : Repertoire σ) (depth : Nat) (p : Program σ)
    (held : List Alias) (s : State σ) :
    ∃ ms, Course m rep depth held p s ms ((m.play rep depth p).exec s).1
      ((m.play rep depth p).exec s).2 := by
  -- The routines of a call are programs of a lower depth; the rest of a program is a part of it.
  induction depth using Nat.strongRecOn generalizing p held s with
  | ind depth ihdepth =>
    induction p generalizing s with
    | done => exact ⟨_, .done⟩
    | look k ih =>
      obtain ⟨ms, h⟩ := ih s s
      exact ⟨ms, .look h⟩
    | deed d next ih =>
      obtain ⟨ms, h⟩ := ih (s.perform d)
      exact ⟨_, .deed h⟩
    | call mode call next ih =>
      obtain ⟨o, u, p, turn, hx⟩ := m.perform_turn mode call s
      unfold play
      rw [exec_call (hx _)]
      cases o with
      | error e =>
        cases turn with
        | crashed es ha hw hd hj => exact ⟨_, .crashed (.crashed es ha hw hd hj)⟩
      | ok st =>
        cases p with
        | none =>
          obtain ⟨ms, h⟩ := ih st u
          exact ⟨_, .call turn h⟩
        | some q =>
          cases depth with
          | zero => exact ⟨_, .tooDeep turn⟩
          | succ depth =>
            obtain ⟨inner, hi⟩ := ihdepth depth (Nat.lt_succ_self depth)
              (rep q.routine q.call) (call.hand mode s.memory q.call.srb held) (u.entering q)
            have hr : m.routines rep (depth + 1) q.routine q.call =
                m.play rep depth (rep q.routine q.call) := rfl
            unfold finish conclude
            dsimp only
            rw [hr]
            rcases hv : (m.play rep depth (rep q.routine q.call)).exec (u.entering q) with
              ⟨e | ⟨⟩, v⟩
            · rw [hv] at hi
              exact ⟨_, .broken turn hi⟩
            · rw [hv] at hi
              obtain ⟨ms, h⟩ := ih st (v.leaving q)
              exact ⟨_, .posted turn hi h⟩

end Manager

/-! ## What adds up along a course -/

/-- Something that a run does and that adds up: `did s as t` says that it did `as` on the way from
state `s` to state `t`, and `piece x as` that it did `as` in moment `x`. -/
structure Tally {σ α : Type} (m : Manager σ) (piece : Moment σ → List α → Prop)
    (did : State σ → List α → State σ → Prop) : Prop where
  append {s t u : State σ} {as bs : List α} : did s as t → did t bs u → did s (as ++ bs) u
  finish (held : List Alias) (s : State σ) : piece ⟨held, .finish, s⟩ [] ∧ did s [] s
  deed (held : List Alias) (d : Deed) (s : State σ) :
    piece ⟨held, .deed d, s⟩ [] ∧ did s [] (s.perform d)
  turn {mode : AddressingMode} {call : Call} {s u : State σ} {o : Except Fault Status}
    {p : Option Posting} (held : List Alias) (h : m.Turn mode call s o u p) :
    ∃ as, piece ⟨held, .call mode call, s⟩ as ∧ did s as u
  entering (s : State σ) (q : Posting) : did s [] (s.entering q)
  leaving (s : State σ) (q : Posting) : did s [] (s.leaving q)

/-- What a run does is what its moments do, one after the other. -/
theorem Course.tally {σ α : Type} {m : Manager σ} {rep : Repertoire σ} {depth : Nat}
    {held : List Alias} {p : Program σ} {s t : State σ} {ms : List (Moment σ)}
    {o : Except Fault Unit} {piece : Moment σ → List α → Prop}
    {did : State σ → List α → State σ → Prop} (h : Course m rep depth held p s ms o t)
    (T : Tally m piece did) :
    ∃ pieces, List.Forall₂ piece ms pieces ∧ did s pieces.flatten t := by
  induction h with
  | done =>
    obtain ⟨hp, hd⟩ := T.finish _ _
    exact ⟨[[]], .cons hp .nil, hd⟩
  | look _ ih => exact ih
  | deed _ ih =>
    obtain ⟨pieces, hps, hds⟩ := ih
    obtain ⟨hp, hd⟩ := T.deed _ _ _
    exact ⟨[] :: pieces, .cons hp hps, T.append hd hds⟩
  | call turn _ ih =>
    obtain ⟨pieces, hps, hds⟩ := ih
    obtain ⟨as, hp, hd⟩ := T.turn _ turn
    exact ⟨as :: pieces, .cons hp hps, T.append hd hds⟩
  | crashed turn =>
    obtain ⟨as, hp, hd⟩ := T.turn _ turn
    exact ⟨[as], .cons hp .nil, by simpa using hd⟩
  | tooDeep turn =>
    obtain ⟨as, hp, hd⟩ := T.turn _ turn
    exact ⟨[as], .cons hp .nil, T.append hd (T.entering _ _)⟩
  | posted turn _ _ ihrun ih =>
    obtain ⟨inner, his, hdi⟩ := ihrun
    obtain ⟨pieces, hps, hds⟩ := ih
    obtain ⟨as, hp, hd⟩ := T.turn _ turn
    refine ⟨as :: (inner ++ pieces), .cons hp (List.rel_append his hps), ?_⟩
    rw [List.flatten_cons, List.flatten_append]
    exact T.append hd (T.append (T.append (T.entering _ _) hdi)
      (T.append (T.leaving _ _) hds))
  | broken turn _ ihrun =>
    obtain ⟨inner, his, hdi⟩ := ihrun
    obtain ⟨as, hp, hd⟩ := T.turn _ turn
    exact ⟨as :: inner, .cons hp his, T.append hd (T.append (T.entering _ _) hdi)⟩

/-! ## States that a caller can reach -/

/-- What is registered in a moment. -/
def Moment.registered {σ : Type} (x : Moment σ) : List (Nat × Nat) :=
  match x.act with
  | .deed (.register entry n) => [(entry, n)]
  | .deed (.write ..) | .deed (.allocate ..) | .deed (.free _) | .call .. | .finish => []

/-- A table with room made for a block, if it needs some, is reachable. -/
theorem DescriptorTable.Reachable.of_tell {m found : Memory} {mode : AddressingMode}
    {block : Option Block} {arg : PostArgument} (hr : m.table.Reachable)
    (h : m.tell mode block = .ok (arg, found)) : found.table.Reachable := by
  cases block with
  | none =>
    cases h
    exact hr
  | some b =>
    cases mode with
    | protectedMode =>
      cases h
      exact hr
    | realMode =>
      rw [Memory.tell_real] at h
      split at h
      · rename_i s t ha
        cases h
        exact hr.alloc ha
      · cases h

theorem DescriptorTable.Reachable.release {m : Memory} (hr : m.table.Reachable)
    (arg : PostArgument) : (m.release arg).table.Reachable := by
  unfold Memory.release
  cases arg.mapped with
  | none => exact hr
  | some s => exact hr.free s

theorem DescriptorTable.Reachable.perform {m : Memory} (hr : m.table.Reachable) (d : Deed) :
    (m.perform d).table.Reachable := by
  cases d with
  | write | register => exact hr
  | free s => exact hr.free s
  | allocate base len =>
    unfold Memory.perform Memory.allocSelector
    dsimp only
    cases ha : m.table.alloc base len with
    | none => exact hr
    | some st => exact hr.alloc ha

/-- The table that a routine finds is reachable. -/
theorem DescriptorTable.Reachable.posting {σ : Type} {m : Manager σ} {mode : AddressingMode}
    {call : Call} {s u : State σ} {o : Except Fault Status} {q : Posting}
    (hr : s.memory.table.Reachable) (h : m.Turn mode call s o u (some q)) :
    q.memory.table.Reachable := by
  obtain ⟨r, block, st, -, -, -, -, -, ht⟩ := h.posted
  obtain ⟨-, htable, -⟩ := h.frame
  rw [← htable] at hr
  exact hr.of_tell ht

namespace State.Reached

variable {σ : Type} {m : Manager σ} {rep : Repertoire σ} {depth : Nat} {held : List Alias}
  {p : Program σ} {s t u : State σ} {ms : List (Moment σ)} {o : Except Fault Unit}
  {mode : AddressingMode} {call : Call} {history : List (Nat × Nat)} {q : Posting}

theorem perform (hr : s.Reached history) (d : Deed) (held : List Alias) :
    (s.perform d).Reached (history ++ (Moment.mk held (.deed d) s).registered) where
  table := hr.table.perform d
  routines := by
    have hs : s.routines = .ofHistory history := hr.routines
    cases d with
    | register entry n =>
      show s.routines.register entry n = .ofHistory (history ++ [(entry, n)])
      rw [hs, Routines.ofHistory_append]
    | write | allocate | free =>
      show s.routines = .ofHistory (history ++ [])
      rw [hs, List.append_nil]

theorem turn (hr : s.Reached history) {o : Except Fault Status} {p : Option Posting}
    (h : m.Turn mode call s o u p) : u.Reached history := by
  obtain ⟨-, htable, hroutines⟩ := h.frame
  exact ⟨htable ▸ hr.table, hroutines.trans hr.routines⟩

theorem entering (hr : s.Reached history) {o : Except Fault Status}
    (h : m.Turn mode call s o u (some q)) : (u.entering q).Reached history :=
  ⟨hr.table.posting h, (hr.turn h).routines⟩

theorem leaving (hr : s.Reached history) (q : Posting) : (s.leaving q).Reached history :=
  ⟨hr.table.release q.arg, hr.routines⟩

/-- A run leads from a state that a caller can reach to one that it can reach. -/
theorem course (hr : s.Reached history) (h : Course m rep depth held p s ms o t) :
    t.Reached (history ++ ms.flatMap Moment.registered) := by
  induction h generalizing history with
  | done =>
    show State.Reached _ (history ++ [])
    rwa [List.append_nil]
  | look _ ih => exact ih hr
  | @deed _ held d next s t ms o _ ih =>
    have hs := ih (hr.perform d held)
    rwa [List.append_assoc] at hs
  | call ht _ ih => exact ih (hr.turn ht)
  | crashed ht =>
    show State.Reached _ (history ++ [])
    rw [List.append_nil]
    exact hr.turn ht
  | tooDeep ht =>
    show State.Reached _ (history ++ [])
    rw [List.append_nil]
    exact hr.entering ht
  | @posted _ _ _ _ _ _ _ _ _ _ q inner ms _ ht _ _ ihrun ih =>
    have hs := ih ((ihrun (hr.entering ht)).leaving q)
    rwa [List.append_assoc, ← List.flatMap_append] at hs
  | broken ht _ ihrun => exact ihrun (hr.entering ht)

end State.Reached

end AspiManager
