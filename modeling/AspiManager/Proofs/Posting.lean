import AspiManager.Proofs.Execution

/-!
# Posting

What a run of `notify` comes to, for all post routines at once. `Manager.posting?` is the posting of
a request, if one is due: which routine is called, what it is told, and the memory that it finds.
`notify_exec` says that a run of `notify` is this one call, after which the selector of the block is
given back, or changes nothing.

What a routine does is not known, so that none is called can also be said by comparing runs with
different routines: with none called the runs are all alike, and with one called they break down
where the routine does (`CallsIn`).
-/

namespace AspiManager

/-- The posting of a request: the entry, the routine there, what it is told about the block, the
request, and the memory that it finds. -/
structure Posting where
  entry : Nat
  routine : Nat
  arg : PostArgument
  request : Request
  memory : Memory

/-- What the routine is told. -/
def Posting.call (p : Posting) : PostCall := ⟨p.arg.srb, p.request⟩

theorem eq_ok_of_toOption {ε α : Type} {x : Except ε α} {a : α} (h : x.toOption = some a) :
    x = .ok a := by
  cases x with
  | error e => cases h
  | ok b =>
    cases h
    rfl

/-- What a routine is told about the block of a request, and the memory with the selector that was
made for it. A request without a block has a null pointer. -/
def Memory.tell (m : Memory) (mode : AddressingMode) :
    Option Block → Except AddressError (PostArgument × Memory)
  | none => .ok (⟨.null, none⟩, m)
  | some b => m.postArgument mode b.ptr b.range

/-- In real mode a block is told by a selector that is made for it. -/
theorem Memory.tell_real (m : Memory) (b : Block) :
    m.tell .realMode (some b) = match m.table.alloc b.range.base b.range.len with
      | some (s, t) => .ok (⟨⟨s, 0⟩, some s⟩, { m with table := t })
      | none => .error .tableFull := by
  unfold tell postArgument allocSelector
  dsimp only
  cases m.table.alloc b.range.base b.range.len <;> rfl

namespace State

variable {σ : Type}

/-- The state in which the routine of a posting is called. -/
def entering (s : State σ) (p : Posting) : State σ :=
  { s with memory := p.memory, effects := s.effects.push (.called p.entry p.call) }

/-- The state when a routine has returned and the selector of its block is given back. -/
def leaving (s : State σ) (p : Posting) : State σ :=
  { s with memory := s.memory.release p.arg }

end State

namespace Manager

variable {σ α β : Type}

/-- The posting of a request, if one is due: it asks for a routine, its pointer names an entry, a
routine is registered there, and the block can be told. -/
def posting? (mode : AddressingMode) (r : Request) (block : Option Block) (memory : Memory)
    (routines : Routines) : Option Posting := do
  let ptr ← postEntry? r
  let range ← (memory.resolve mode ptr 1).toOption
  let n ← routines.find? range.base
  let told ← (memory.tell mode block).toOption
  return ⟨range.base, n, told.1, r, told.2⟩

/-- A posting is due exactly if its parts are found one after the other. -/
theorem posting?_eq_some_iff {mode : AddressingMode} {r : Request} {block : Option Block}
    {memory : Memory} {routines : Routines} {p : Posting} :
    posting? mode r block memory routines = some p ↔
      ∃ ptr range, postEntry? r = some ptr ∧ memory.resolve mode ptr 1 = .ok range ∧
        routines.find? range.base = some p.routine ∧
        memory.tell mode block = .ok (p.arg, p.memory) ∧ p.entry = range.base ∧ p.request = r := by
  unfold posting?
  constructor
  · intro h
    simp only [Option.bind_eq_bind, Option.bind_eq_some_iff, Option.pure_def,
      Option.some.injEq] at h
    obtain ⟨ptr, he, range, hr, n, hn, told, ht, rfl⟩ := h
    exact ⟨ptr, range, he, eq_ok_of_toOption hr, hn, eq_ok_of_toOption ht, rfl, rfl⟩
  · rintro ⟨ptr, range, he, hr, hn, ht, hentry, hrequest⟩
    obtain ⟨entry, n, arg, request, found⟩ := p
    dsimp only at hn ht hentry hrequest
    subst hentry hrequest
    simp [he, hr, hn, ht, Except.toOption]

/-- The end of a run that returns `a` when its posting is done. -/
def conclude (f : Nat → PostCall → Run σ Unit) (a : α) (s : State σ) :
    Option Posting → Except Fault α × State σ
  | none => (.ok a, s)
  | some p =>
    match (f p.routine p.call).exec (s.entering p) with
    | (.ok (), t) => (.ok a, t.leaving p)
    | (.error e, t) => (.error e, t)

/-- The runs come to a call of routine `n` in state `u`: if it breaks down, so do they. -/
def CallsIn (x : (Nat → PostCall → Run σ Unit) → Run σ α) (s : State σ) (n : Nat)
    (call : PostCall) (u : State σ) : Prop :=
  ∀ f : Nat → PostCall → Run σ Unit, match (f n call).exec u with
    | (.error e, t) => (x f).exec s = (.error e, t)
    | (.ok (), _) => ∃ a t, (x f).exec s = (.ok a, t)

namespace CallsIn

variable {x : (Nat → PostCall → Run σ Unit) → Run σ α} {s u : State σ} {n : Nat} {call : PostCall}

theorem of_exec {y : (Nat → PostCall → Run σ Unit) → Run σ β} {t : State σ}
    (h : CallsIn x s n call u) {g : α → β} (hy : ∀ f, (y f).exec t = (g <$> x f).exec s) :
    CallsIn y t n call u := by
  intro f
  have hf := h f
  rw [hy, Run.exec_map]
  split
  · rename_i he
    rw [he] at hf
    dsimp only at hf
    rw [hf]
  · rename_i he
    rw [he] at hf
    obtain ⟨a, t', ha⟩ := hf
    rw [ha]
    exact ⟨_, _, rfl⟩

/-- Two runs with routines that break down differently are not alike. -/
theorem not_alike (h : CallsIn x s n call u) {f : Nat → PostCall → Run σ Unit} :
    ¬ ∀ g, (x g).exec s = (x f).exec s := by
  intro hall
  -- Were the runs alike, the two faults of these routines would be one.
  have h1 := h fun _ _ => throw .nesting
  have h2 := h fun _ _ => throw .device
  dsimp only [Run.exec_throw] at h1 h2
  rw [hall, ← hall fun _ _ => throw .device, h2] at h1
  cases h1

end CallsIn

variable (m : Manager σ) (mode : AddressingMode) (r : Request)

theorem call_exec (f : Nat → PostCall → Run σ Unit) (entry n : Nat) (c : PostCall) (s : State σ) :
    ((m.withRoutines f).call entry n c).exec s =
      (f n c).exec { s with effects := s.effects.push (.called entry c) } := rfl

/-- The call of a routine that is told about the block. -/
theorem callWithBlock_exec (f : Nat → PostCall → Run σ Unit) {entry n : Nat} {block : Block}
    {arg : PostArgument} {memory : Memory} {s : State σ}
    (h : s.memory.postArgument mode block.ptr block.range = .ok (arg, memory)) :
    ((m.withRoutines f).callWithBlock mode entry n r block).exec s =
      conclude f (.ok ()) s (some ⟨entry, n, arg, r, memory⟩) := by
  unfold callWithBlock
  rw [Run.exec_bind_ok (Run.exec_memory s), h]
  dsimp only
  rw [Run.exec_bind_ok (Run.exec_setMemory memory s), Run.exec_bind, call_exec]
  unfold conclude State.entering State.leaving Posting.call
  dsimp only
  rcases (f n ⟨arg.srb, r⟩).exec _ with ⟨_ | ⟨⟩, t⟩ <;> rfl

/-- With a routine at the entry that the request names, `post` reports and calls it. -/
theorem post_exec {ptr : FarPtr} {range : Range} {n : Nat} (block : Option Block) {s : State σ}
    (he : postEntry? r = some ptr) (hr : s.memory.resolve mode ptr 1 = .ok range)
    (hn : s.routines.find? range.base = some n) :
    ∃ es, ∀ f, ((m.withRoutines f).post mode r block).exec s =
      (match block with
        | none => (fun _ => Except.ok true) <$> (m.withRoutines f).call range.base n ⟨.null, r⟩
        | some b => Except.map (fun _ => true) <$>
            (m.withRoutines f).callWithBlock mode range.base n r b :
          Run σ (Except PostError Bool)).exec { s with events := es } := by
  refine ⟨s.events.push
    { level := .trace, source := .posting, message := "Post Routine called"
      fields := [("post_proc", .text ptr.text), ("entry", .int range.base)] }, fun f => ?_⟩
  unfold post
  rw [he]
  dsimp only
  rw [Run.exec_bind_ok (Run.exec_memory s), hr]
  dsimp only
  rw [Run.exec_bind_ok (Run.exec_get s), hn]
  dsimp only
  rw [Run.exec_bind_ok (Run.exec_report _ s)]
  cases block <;> rfl

/-- Without a posting a run of `post` calls no routine and changes nothing. -/
theorem post_exec_of_none {block : Option Block} {s : State σ}
    (h : posting? mode r block s.memory s.routines = none) :
    ∃ o es, ∀ f, ((m.withRoutines f).post mode r block).exec s =
      (.ok o, { s with events := es }) := by
  cases he : postEntry? r with
  | none =>
    refine ⟨.ok false, s.events, fun f => ?_⟩
    rw [post, he]
    rfl
  | some ptr =>
    cases hr : s.memory.resolve mode ptr 1 with
    | error e =>
      refine ⟨.error (.address e), s.events, fun f => ?_⟩
      rw [post, he]
      dsimp only
      rw [Run.exec_bind_ok (Run.exec_memory s), hr]
      rfl
    | ok range =>
      cases hn : s.routines.find? range.base with
      | none =>
        refine ⟨.error (.unknownEntry range.base), s.events, fun f => ?_⟩
        rw [post, he]
        dsimp only
        rw [Run.exec_bind_ok (Run.exec_memory s), hr]
        dsimp only
        rw [Run.exec_bind_ok (Run.exec_get s), hn]
        rfl
      | some n =>
        obtain ⟨es, hx⟩ := post_exec m mode r block he hr hn
        -- Only the telling of the block is left to fail.
        cases ht : s.memory.tell mode block with
        | ok told =>
          have hs : posting? mode r block s.memory s.routines =
              some ⟨range.base, n, told.1, r, told.2⟩ :=
            posting?_eq_some_iff.mpr ⟨ptr, range, he, hr, hn, ht, rfl, rfl⟩
          rw [h] at hs
          cases hs
        | error e =>
          cases block with
          | none => cases ht
          | some b =>
            refine ⟨.error (.address e), es, fun f => ?_⟩
            have ht' : s.memory.postArgument mode b.ptr b.range = .error e := ht
            rw [hx, Run.exec_map]
            unfold callWithBlock
            rw [Run.exec_bind_ok (Run.exec_memory _), ht']
            rfl

/-- With a posting a run of `post` is the call of its routine. -/
theorem post_exec_of_some {block : Option Block} {s : State σ} {p : Posting}
    (h : posting? mode r block s.memory s.routines = some p) :
    ∃ es, ∀ f, ((m.withRoutines f).post mode r block).exec s =
      conclude f (.ok true) { s with events := es } (some p) := by
  obtain ⟨ptr, range, he, hr, hn, ht, hentry, hrequest⟩ := posting?_eq_some_iff.mp h
  obtain ⟨es, hx⟩ := post_exec m mode r block he hr hn
  refine ⟨es, fun f => (hx f).trans ?_⟩
  obtain ⟨entry, n, arg, request, found⟩ := p
  dsimp only at hn ht hentry hrequest
  subst hentry hrequest
  cases block with
  | none =>
    cases ht
    dsimp only
    rw [Run.exec_map, call_exec]
    unfold conclude State.entering State.leaving Posting.call
    dsimp only
    rcases (f n ⟨.null, request⟩).exec _ with ⟨_ | ⟨⟩, t⟩ <;> rfl
  | some b =>
    dsimp only
    rw [Run.exec_map, callWithBlock_exec (s := { s with events := es }) m mode request f ht]
    unfold conclude
    dsimp only
    rcases (f n _).exec _ with ⟨_ | ⟨⟩, t⟩ <;> rfl

/-- A run of `notify` is the posting of the request, if it has one, and changes nothing if not. -/
theorem notify_exec (block : Option Block) (s : State σ) :
    ∃ es, ∀ f, ((m.withRoutines f).notify mode r block).exec s =
      conclude f () { s with events := es } (posting? mode r block s.memory s.routines) := by
  cases hp : posting? mode r block s.memory s.routines with
  | none =>
    obtain ⟨o, es, h⟩ := post_exec_of_none m mode r hp
    cases o with
    | ok _ => exact ⟨es, fun f => Run.exec_bind_ok (h f) _⟩
    | error e =>
      let failure := event .warn "Post routine not called"
        [("post_proc", .text (Record.optional (r.postProc.map FarPtr.text))),
          ("error", .text e.message)]
      exact ⟨es.push failure, fun f => Run.exec_bind_ok (h f) _⟩
  | some p =>
    obtain ⟨es, h⟩ := post_exec_of_some m mode r hp
    refine ⟨es, fun f => ?_⟩
    unfold notify
    rw [Run.exec_bind, h]
    unfold conclude
    dsimp only
    rcases (f p.routine p.call).exec _ with ⟨_ | ⟨⟩, t⟩ <;> rfl

theorem conclude_callsIn (a : α) (s : State σ) (p : Posting)
    {x : (Nat → PostCall → Run σ Unit) → Run σ α} {u : State σ}
    (h : ∀ f, (x f).exec u = conclude f a s (some p)) :
    CallsIn x u p.routine p.call (s.entering p) := by
  intro f
  have hf := h f
  unfold conclude at hf
  dsimp only at hf
  split
  · rename_i he
    rw [he] at hf
    exact hf
  · rename_i he
    rw [he] at hf
    exact ⟨_, _, hf⟩

/-- A run of `notify` calls no routine and changes nothing, or it calls one. -/
theorem notify_cases (block : Option Block) (s : State σ) :
    (∃ es, ∀ f, ((m.withRoutines f).notify mode r block).exec s =
        (.ok (), { s with events := es })) ∨
      ∃ n call u, CallsIn (fun f => (m.withRoutines f).notify mode r block) s n call u := by
  obtain ⟨es, h⟩ := notify_exec m mode r block s
  cases hp : posting? mode r block s.memory s.routines with
  | none => exact .inl ⟨es, fun f => by rw [h, hp]; rfl⟩
  | some p => exact .inr ⟨_, _, _, conclude_callsIn () _ p fun f => by rw [h, hp]⟩

/-- A request is returned after its post routine was notified. -/
theorem returned_cases (block : Option Block) (s : State σ) :
    (∃ es, ∀ f, (do (m.withRoutines f).notify mode r block; return r).exec s =
        (.ok r, { s with events := es })) ∨
      ∃ n call u, CallsIn (fun f => do (m.withRoutines f).notify mode r block; return r) s n call
        u := by
  rcases notify_cases m mode r block s with ⟨es, h⟩ | ⟨n, call, u, h⟩
  · exact .inl ⟨es, fun f => Run.exec_bind_ok (h f) _⟩
  · refine .inr ⟨n, call, u, h.of_exec (g := fun _ => r) fun f => ?_⟩
    rw [Run.exec_bind, Run.exec_map]
    rfl

theorem eq_of_returned {block : Option Block} {s t : State σ} {q : Request}
    {f : Nat → PostCall → Run σ Unit}
    (h : (do (m.withRoutines f).notify mode r block; return r : Run σ Request).exec s =
      (.ok q, t)) : q = r := by
  rw [Run.exec_bind] at h
  split at h
  · cases h; rfl
  · cases h

end Manager

end AspiManager
