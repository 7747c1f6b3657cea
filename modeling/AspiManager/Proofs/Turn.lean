import AspiManager.Proofs.Call

/-!
# Turns

A turn is what one call comes to, from the state in which it is made to the state in which its post
routine is called or, without one, to its end. `Manager.Turn` lists all turns there are, and
`perform_turn` says that a run of a call is one of them, followed by the posting of its request, if
there is one. The turn does not depend on the routines, so what a call does besides calling a
routine is read off the cases of `Turn`.

* `Turn.frame`: what no turn changes; `Turn.posted`: what is posted.
* `Turn.unique`: a request has one turn, whatever was reported before.
* `perform_ok`: what a call that asked for a request can return, and what it leaves behind.
* `silent_of_not_posting`: without the request for it no routine is called.
-/

namespace AspiManager

namespace Manager

variable {σ α β : Type}

/-- The state in which a request that was carried out is settled. -/
def settlement (m : Manager σ) (r : Request) (block : Option Block) (w : Windows Range)
    (handle : Handle) (s : State σ) (st : Status) (es : Array Log.Event) : State σ :=
  ((s.acquired (m.acquisition r.key s.registry s.world) es).travelled
    (m.journey r block w handle s) es).stamped (r.settle st) block

/-- The turn of a call in state `s`: its outcome, the state in which its request is settled, and the
posting of its request. -/
inductive Turn (m : Manager σ) (mode : AddressingMode) (call : Call) (s : State σ) :
    Except Fault Status → State σ → Option Posting → Prop
  /-- The call asks for no request. -/
  | aside {srb : FarPtr} {st : Status} {memory : Memory} (es : Array Log.Event)
    (hc : call = .send srb) (hn : ¬ ∃ r block, call.Asks s.memory mode r block)
    (ha : Aside m.adapter s.memory mode srb st memory) :
    Turn m mode call s (.ok st) { s with memory := memory, events := es } none
  /-- The request is rejected for its shape. -/
  | rejected {r : Request} {block : Option Block} (es : Array Log.Event)
    (ha : call.Asks s.memory mode r block) (hu : r.Unfit s.memory mode) :
    Turn m mode call s (.ok .invalid) ({ s with events := es }.stamped (r.settle .invalid) block)
      none
  /-- The device cannot be had. -/
  | unavailable {r : Request} {block : Option Block} {w : Windows Range} {e : RequestError}
    (es : Array Log.Event) (ha : call.Asks s.memory mode r block) (hw : r.Fits s.memory mode w)
    (hd : (m.acquisition r.key s.registry s.world).outcome = .error e) :
    Turn m mode call s (.ok .failed)
      ((s.acquired (m.acquisition r.key s.registry s.world) es).stamped (r.settle .failed) block)
      none
  /-- The host breaks down in the round trip. -/
  | crashed {r : Request} {block : Option Block} {w : Windows Range} {handle : Handle} {e : Fault}
    (es : Array Log.Event) (ha : call.Asks s.memory mode r block) (hw : r.Fits s.memory mode w)
    (hd : (m.acquisition r.key s.registry s.world).outcome = .ok handle)
    (hj : (m.journey r block w handle s).outcome = .error e) :
    Turn m mode call s (.error e)
      ((s.acquired (m.acquisition r.key s.registry s.world) es).travelled
        (m.journey r block w handle s) es) none
  /-- The request is carried out and settled with the outcome of its round trip. -/
  | settled {r : Request} {block : Option Block} {w : Windows Range} {handle : Handle}
    {st : Status} (es : Array Log.Event) (ha : call.Asks s.memory mode r block)
    (hw : r.Fits s.memory mode w)
    (hd : (m.acquisition r.key s.registry s.world).outcome = .ok handle)
    (hj : (m.journey r block w handle s).outcome = .ok st) :
    Turn m mode call s (.ok st) (m.settlement r block w handle s st es)
      (posting? mode (r.settle st) block (m.settlement r block w handle s st es).memory s.routines)

/-- The end of a run whose turn has the outcome `o`. -/
def finish (f : Nat → PostCall → Run σ Unit) (o : Except Fault α) (s : State σ)
    (p : Option Posting) : Except Fault α × State σ :=
  match o with
  | .ok a => conclude f a s p
  | .error e => (.error e, s)

variable {m : Manager σ} {mode : AddressingMode} {call : Call} {r : Request}
  {block : Option Block} {s : State σ} {w : Windows Range} {handle : Handle} {st : Status}

theorem exec_map_conclude {x : Run σ α} {u : State σ} {f : Nat → PostCall → Run σ Unit} {a : α}
    {p : Option Posting} (h : x.exec s = conclude f a u p) (g : α → β) :
    (g <$> x).exec s = conclude f (g a) u p := by
  rw [Run.exec_map, h]
  unfold conclude
  cases p with
  | none => rfl
  | some p =>
    dsimp only
    rcases (f p.routine p.call).exec (u.entering p) with ⟨_ | ⟨⟩, t⟩ <;> rfl

/-- A request that is carried out is settled, and then its posting is done. -/
theorem execute_settled (m : Manager σ) (hb : ∀ b, block = some b → b.Fits s.memory)
    (hw : r.Fits s.memory mode w)
    (hd : (m.acquisition r.key s.registry s.world).outcome = .ok handle)
    (hj : (m.journey r block w handle s).outcome = .ok st) :
    ∃ es, ∀ f, ((m.withRoutines f).execute mode r block).exec s =
      conclude f (r.settle st) (m.settlement r block w handle s st es)
        (posting? mode (r.settle st) block (m.settlement r block w handle s st es).memory
          s.routines) := by
  obtain ⟨es, he⟩ := m.execute_carried hb hw hd
  rw [hj] at he
  obtain ⟨es', hn⟩ := notify_exec m mode (r.settle st) block (m.settlement r block w handle s st es)
  refine ⟨es', fun f => (he f).trans ?_⟩
  have hmap : (fun _ => r.settle st) <$> (m.withRoutines f).notify mode (r.settle st) block =
      (do (m.withRoutines f).notify mode (r.settle st) block
          return r.settle st : Run σ Request) := map_eq_pure_bind _ _
  dsimp only
  rw [← hmap]
  exact exec_map_conclude (hn f) _

/-- A run of a call is a turn, followed by the posting of its request. -/
theorem perform_turn (m : Manager σ) (mode : AddressingMode) (call : Call) (s : State σ) :
    ∃ o u p, m.Turn mode call s o u p ∧
      ∀ f, ((m.withRoutines f).perform mode call).exec s = finish f o u p := by
  by_cases ha : ¬ ∃ r block, call.Asks s.memory mode r block
  · cases call with
    | submit r => exact absurd ⟨r, none, .submit r⟩ ha
    | send srb =>
      obtain ⟨st, memory, es, hs, -, hx⟩ := m.send_aside fun ⟨_, _, hb⟩ => ha ⟨_, _, .send hb⟩
      exact ⟨_, _, _, .aside es rfl ha hs, hx⟩
  obtain ⟨r, block, ha⟩ := Classical.not_not.mp ha
  have hx := m.perform_exec ha
  by_cases hu : r.Unfit s.memory mode
  · obtain ⟨es, he⟩ := m.execute_rejected ha.fits hu
    refine ⟨_, _, _, .rejected es ha hu, fun f => (hx f).trans ?_⟩
    rw [Run.exec_bind_ok (he f), status_settle]
    rfl
  obtain ⟨w, hw⟩ := Request.exists_fits hu
  cases hd : (m.acquisition r.key s.registry s.world).outcome with
  | error e =>
    obtain ⟨es, he⟩ := m.execute_unavailable ha.fits hw hd
    refine ⟨_, _, _, .unavailable es ha hw hd, fun f => (hx f).trans ?_⟩
    rw [Run.exec_bind_ok (he f), status_settle]
    rfl
  | ok handle =>
    cases hj : (m.journey r block w handle s).outcome with
    | error e =>
      obtain ⟨es, he⟩ := m.execute_carried ha.fits hw hd
      rw [hj] at he
      refine ⟨_, _, _, .crashed es ha hw hd hj, fun f => (hx f).trans ?_⟩
      exact Run.exec_bind_error (he f) _
    | ok st =>
      obtain ⟨es, he⟩ := m.execute_settled ha.fits hw hd hj
      refine ⟨_, _, _, .settled es ha hw hd hj, fun f => (hx f).trans ?_⟩
      refine (exec_status (y := (m.withRoutines f).execute mode r block) rfl).trans ?_
      rw [exec_map_conclude (he f), status_settle]
      rfl

/-! ## What no turn changes -/

variable {o : Except Fault Status} {u : State σ} {p : Option Posting}

/-- A turn writes octets, and leaves the size of the memory, the table and the routines alone. -/
theorem Turn.frame (h : m.Turn mode call s o u p) :
    u.memory.size = s.memory.size ∧ u.memory.table = s.memory.table ∧ u.routines = s.routines := by
  cases h with
  | aside es hc hn ha =>
    cases ha with
    | refused => exact ⟨rfl, rfl, rfl⟩
    | rejected | answered => exact ⟨Memory.size_put .., Memory.table_put .., rfl⟩
  | rejected | unavailable => exact ⟨Memory.size_stamp .., Memory.table_stamp .., rfl⟩
  | crashed =>
    exact ⟨(size_trip ..).trans (Memory.size_stamp ..),
      (table_trip ..).trans (Memory.table_stamp ..), rfl⟩
  | settled =>
    refine ⟨(Memory.size_stamp ..).trans ?_, (Memory.table_stamp ..).trans ?_, rfl⟩
    · exact (size_trip ..).trans (Memory.size_stamp ..)
    · exact (table_trip ..).trans (Memory.table_stamp ..)

/-- What is posted is a request that was settled and asks for it: to the routine at its entry, which
is told of its block. -/
theorem Turn.posted {q : Posting} (h : m.Turn mode call s o u (some q)) :
    ∃ r block st, call.Asks s.memory mode r block ∧ r.posting = true ∧ o = .ok st ∧
      q.request = r.settle st ∧ s.routines.find? q.entry = some q.routine ∧
      u.memory.tell mode block = .ok (q.arg, q.memory) := by
  generalize hp : some q = p at h
  cases h with
  | @settled r _ _ _ st es ha hw hd hj =>
    obtain ⟨ptr, range, he, -, hn, ht, hentry, hrequest⟩ := posting?_eq_some_iff.mp hp.symm
    have hposting : (r.settle st).posting = true := by
      unfold postEntry? at he
      exact (Option.ite_none_right_eq_some.mp he).1
    rw [← hentry] at hn
    exact ⟨_, _, _, ha, (posting_settle r st).symm.trans hposting, rfl, hrequest, hn, ht⟩
  | aside | rejected | unavailable | crashed => cases hp

/-! ## Turns of a request -/

variable {u' : State σ} {o' : Except Fault Status} {p' : Option Posting}

theorem Turn.of_unfit (h : m.Turn mode call s o u p) (ha : call.Asks s.memory mode r block)
    (hu : r.Unfit s.memory mode) :
    o = .ok .invalid ∧ p = none ∧
      ∃ es, u = { s with events := es }.stamped (r.settle .invalid) block := by
  cases h with
  | aside es hc hn => exact absurd ⟨r, block, ha⟩ hn
  | rejected es ha' =>
    obtain ⟨rfl, rfl⟩ := ha.unique ha'
    exact ⟨rfl, rfl, es, rfl⟩
  | unavailable es ha' hw | crashed es ha' hw | settled es ha' hw =>
    obtain ⟨rfl, -⟩ := ha.unique ha'
    exact absurd hu hw.not_unfit

theorem Turn.of_unavailable (h : m.Turn mode call s o u p) (ha : call.Asks s.memory mode r block)
    (hw : r.Fits s.memory mode w) {e : RequestError}
    (hd : (m.acquisition r.key s.registry s.world).outcome = .error e) :
    o = .ok .failed ∧ p = none ∧
      ∃ es, u = (s.acquired (m.acquisition r.key s.registry s.world) es).stamped (r.settle .failed)
        block := by
  cases h with
  | aside es hc hn => exact absurd ⟨r, block, ha⟩ hn
  | rejected es ha' hu =>
    obtain ⟨rfl, -⟩ := ha.unique ha'
    exact absurd hu hw.not_unfit
  | unavailable es ha' =>
    obtain ⟨rfl, rfl⟩ := ha.unique ha'
    exact ⟨rfl, rfl, es, rfl⟩
  | crashed es ha' _ hd' | settled es ha' _ hd' =>
    obtain ⟨rfl, -⟩ := ha.unique ha'
    rw [hd] at hd'
    cases hd'

/-- A request whose device is there makes its round trip. -/
theorem Turn.of_acquired (h : m.Turn mode call s o u p) (ha : call.Asks s.memory mode r block)
    (hw : r.Fits s.memory mode w)
    (hd : (m.acquisition r.key s.registry s.world).outcome = .ok handle) :
    o = (m.journey r block w handle s).outcome ∧ ∃ es, match o with
      | .error _ => p = none ∧
          u = (s.acquired (m.acquisition r.key s.registry s.world) es).travelled
            (m.journey r block w handle s) es
      | .ok st => u = m.settlement r block w handle s st es ∧
          p = posting? mode (r.settle st) block u.memory s.routines := by
  cases h with
  | aside es hc hn => exact absurd ⟨r, block, ha⟩ hn
  | rejected es ha' hu =>
    obtain ⟨rfl, -⟩ := ha.unique ha'
    exact absurd hu hw.not_unfit
  | unavailable es ha' hw' hd' =>
    obtain ⟨rfl, -⟩ := ha.unique ha'
    rw [hd] at hd'
    cases hd'
  | crashed es ha' hw' hd' hj | settled es ha' hw' hd' hj =>
    obtain ⟨rfl, rfl⟩ := ha.unique ha'
    obtain rfl := hw.unique hw'
    rw [hd] at hd'
    cases hd'
    exact ⟨hj.symm, es, rfl, rfl⟩

/-- What a request comes to does not depend on what was reported before. -/
theorem Turn.unique (h : m.Turn mode call s o u p) (ha : call.Asks s.memory mode r block)
    {es : Array Log.Event} (h' : m.Turn mode call { s with events := es } o' u' p') :
    o' = o ∧ p' = p ∧ ∃ es', u' = { u with events := es' } := by
  by_cases hu : r.Unfit s.memory mode
  · obtain ⟨rfl, rfl, es₁, rfl⟩ := h.of_unfit ha hu
    obtain ⟨rfl, rfl, es₂, rfl⟩ := h'.of_unfit ha hu
    exact ⟨rfl, rfl, es₂, rfl⟩
  obtain ⟨w, hw⟩ := Request.exists_fits hu
  cases hd : (m.acquisition r.key s.registry s.world).outcome with
  | error e =>
    obtain ⟨rfl, rfl, es₁, rfl⟩ := h.of_unavailable ha hw hd
    obtain ⟨rfl, rfl, es₂, rfl⟩ := h'.of_unavailable ha hw hd
    exact ⟨rfl, rfl, es₂, rfl⟩
  | ok handle =>
    obtain ⟨hj, es₁, hu₁⟩ := h.of_acquired ha hw hd
    obtain ⟨hj', es₂, hu₂⟩ := h'.of_acquired ha hw hd
    obtain rfl : o' = o := hj'.trans hj.symm
    cases o' with
    | error e =>
      obtain ⟨rfl, rfl⟩ := hu₁
      obtain ⟨rfl, rfl⟩ := hu₂
      exact ⟨rfl, rfl, es₂, rfl⟩
    | ok st =>
      obtain ⟨rfl, rfl⟩ := hu₁
      obtain ⟨rfl, rfl⟩ := hu₂
      exact ⟨rfl, rfl, es₂, rfl⟩

/-- Calls from two states that differ in what was reported come to the same, but for what was
reported. -/
theorem perform_reported (m : Manager σ) (ha : call.Asks s.memory mode r block)
    (es : Array Log.Event) :
    ∃ o u p es', m.Turn mode call s o u p ∧
      (∀ f, ((m.withRoutines f).perform mode call).exec s = finish f o u p) ∧
      ∀ f, ((m.withRoutines f).perform mode call).exec { s with events := es } =
        finish f o { u with events := es' } p := by
  obtain ⟨o, u, p, h, hx⟩ := m.perform_turn mode call s
  obtain ⟨o', u', p', h', hx'⟩ := m.perform_turn mode call { s with events := es }
  obtain ⟨rfl, rfl, es', rfl⟩ := h.unique ha h'
  exact ⟨_, _, _, es', h, hx, hx'⟩

/-! ## Runs as turns -/

/-- A call that calls no post routine is its turn. -/
theorem exec_of_silent (hs : m.Silent mode call s) :
    ∃ o u, m.Turn mode call s o u none ∧ (m.perform mode call).exec s = (o, u) := by
  obtain ⟨o, u, p, ht, hx⟩ := m.perform_turn mode call s
  have hm : (m.perform mode call).exec s = finish m.routine o u p := hx m.routine
  cases p with
  | none =>
    refine ⟨o, u, ht, hm.trans ?_⟩
    cases o <;> rfl
  | some p =>
    cases o with
    | error e => cases ht
    | ok st => exact absurd hs (conclude_callsIn st u p hx).not_alike

/-- A run that returns what is concluded from a status has that status. -/
theorem eq_of_conclude {f : Nat → PostCall → Run σ Unit} {a b : α} {t : State σ}
    (h : conclude f a u p = (.ok b, t)) : b = a := by
  unfold conclude at h
  cases p with
  | none =>
    cases h
    rfl
  | some p =>
    dsimp only at h
    split at h
    · cases h
      rfl
    · cases h

/-- What a call that asks for a request can return. Either the request has no windows and is
invalid, or its device cannot be had and it failed, or it was carried out and has the status that
its round trip came to. Unless the last called a post routine, the state is known. -/
theorem perform_ok {t : State σ} (ha : call.Asks s.memory mode r block)
    (h : (m.perform mode call).exec s = (.ok st, t)) :
    (st = .invalid ∧ r.Unfit s.memory mode ∧ m.Silent mode call s ∧
      ∃ es, t = { s with events := es }.stamped (r.settle st) block) ∨
    (∃ w e, st = .failed ∧ r.Fits s.memory mode w ∧
      (m.acquisition r.key s.registry s.world).outcome = .error e) ∨
    ∃ w handle, r.Fits s.memory mode w ∧
      (m.acquisition r.key s.registry s.world).outcome = .ok handle ∧
      (m.journey r block w handle s).outcome = .ok st ∧
      (m.Silent mode call s → ∃ es,
        t = ((s.acquired (m.acquisition r.key s.registry s.world) es).travelled
          (m.journey r block w handle s) es).stamped (r.settle st) block) := by
  obtain ⟨o, u, p, ht, hx⟩ := m.perform_turn mode call s
  have hm : finish m.routine o u p = (.ok st, t) := (hx m.routine).symm.trans h
  cases ht with
  | aside es hc hn => exact absurd ⟨r, block, ha⟩ hn
  | rejected es ha' hu =>
    obtain ⟨rfl, rfl⟩ := ha.unique ha'
    cases hm
    exact .inl ⟨rfl, hu, silent_of_forall hx, es, rfl⟩
  | unavailable es ha' hw hd =>
    obtain ⟨rfl, rfl⟩ := ha.unique ha'
    cases hm
    exact .inr (.inl ⟨_, _, rfl, hw, hd⟩)
  | crashed => cases hm
  | @settled _ _ w handle _ es ha' hw hd hj =>
    obtain ⟨rfl, rfl⟩ := ha.unique ha'
    obtain rfl := eq_of_conclude hm
    refine .inr (.inr ⟨w, handle, hw, hd, hj, fun hs => ⟨es, ?_⟩⟩)
    -- With a posting the run would not be silent, and without one it ends where it was settled.
    generalize posting? mode _ _ _ _ = p at hm hx
    cases p with
    | none =>
      cases hm
      rfl
    | some q => exact absurd hs (conclude_callsIn _ _ q hx).not_alike

/-- A request that asks for no post routine calls none. -/
theorem silent_of_not_posting (ha : call.Asks s.memory mode r block) (hr : r.posting = false) :
    m.Silent mode call s := by
  obtain ⟨o, u, p, ht, hx⟩ := m.perform_turn mode call s
  cases p with
  | none =>
    cases o with
    | error e => exact silent_of_forall hx
    | ok st => exact silent_of_forall hx
  | some q =>
    obtain ⟨r', block', st, ha', hposting, -⟩ := ht.posted
    obtain ⟨rfl, -⟩ := ha.unique ha'
    rw [hr] at hposting
    cases hposting

end Manager

end AspiManager
