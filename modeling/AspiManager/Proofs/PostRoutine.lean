import AspiManager.Proofs.Descriptors
import AspiManager.Proofs.Failure

/-!
# The call of a post routine

A request that is carried out has one post routine called if one is due, and none otherwise
(`posting_exact`). `Manager.Due` says when one is due, `Handed` what it is told about the block of
its request. The routine is called when the request is settled, after it nothing happens but that
the selector of the block is given back, and the status that is returned does not depend on it.
-/

namespace AspiManager

/-! ## Registered routines -/

namespace Routines

/-- The table that registrations lead to, the first one first. -/
def ofHistory (history : List (Nat × Nat)) : Routines :=
  history.foldl (fun t p => t.register p.1 p.2) {}

theorem lookup_filter {a b : Nat} (h : a ≠ b) (l : List (Nat × Nat)) :
    (l.filter (·.1 != b)).lookup a = l.lookup a := by
  induction l with
  | nil => rfl
  | cons p l ih =>
    obtain ⟨c, n⟩ := p
    by_cases hc : c = b
    · subst hc
      have hac : (a == c) = false := beq_eq_false_iff_ne.mpr h
      rw [List.filter_cons_of_neg (by simp), ih, List.lookup_cons, hac]
    · rw [List.filter_cons_of_pos (by simpa using hc), List.lookup_cons, List.lookup_cons, ih]

theorem find?_register (t : Routines) (entry n a : Nat) :
    (t.register entry n).find? a = if a = entry then some n else t.find? a := by
  unfold find? register
  rw [List.lookup_cons]
  by_cases h : a = entry
  · rw [if_pos h, beq_iff_eq.mpr h]
  · rw [if_neg h, beq_eq_false_iff_ne.mpr h]
    exact lookup_filter h t.entries

theorem ofHistory_append (history : List (Nat × Nat)) (entry n : Nat) :
    ofHistory (history ++ [(entry, n)]) = (ofHistory history).register entry n := by
  unfold ofHistory
  rw [List.foldl_append]
  rfl

/-- At an entry there is the routine that was registered last. -/
theorem find?_ofHistory (history : List (Nat × Nat)) (a : Nat) :
    (ofHistory history).find? a = history.reverse.lookup a := by
  generalize hl : history.reverse = l
  induction l generalizing history with
  | nil =>
    obtain rfl := List.reverse_eq_nil_iff.mp hl
    rfl
  | cons p l ih =>
    obtain ⟨entry, n⟩ := p
    obtain rfl : history = l.reverse ++ [(entry, n)] := by
      rw [← List.reverse_cons, ← hl, List.reverse_reverse]
    rw [ofHistory_append, find?_register, ih l.reverse (List.reverse_reverse l), List.lookup_cons]
    by_cases h : a = entry
    · rw [if_pos h, beq_iff_eq.mpr h]
    · rw [if_neg h, beq_eq_false_iff_ne.mpr h]

end Routines

/-- The state is one that a caller can lead to: its descriptor table by allocations and frees, its
routines by registrations. -/
structure State.Reached {σ : Type} (s : State σ) (history : List (Nat × Nat)) : Prop where
  table : s.memory.table.Reachable
  routines : s.routines = .ofHistory history

/-! ## What a routine is handed -/

/-- What a post routine is handed when memory `m` is the caller's: a pointer, the memory that it
finds, and what is done to the memory that it leaves. -/
inductive Handed (mode : AddressingMode) (m : Memory) :
    Option Block → FarPtr → Memory → (Memory → Memory) → Prop
  /-- Without a block the pointer is null. -/
  | direct : Handed mode m none .null m id
  /-- In protected mode the caller's pointer is handed on. -/
  | pointer (b : Block) (h : mode = .protectedMode) : Handed mode m (some b) b.ptr m id
  /-- In real mode the block is mapped by a selector that was free, which is given back. -/
  | mapped (b : Block) (s : UInt16) (t : DescriptorTable) (h : mode = .realMode)
    (hs : 0 < DescriptorTable.index s) (hfree : m.table.lookup s = none)
    (ht : ∀ i, t.descriptor? i = if i = DescriptorTable.index s then
      some (DescriptorTable.segment b.range.base b.range.len) else m.table.descriptor? i) :
    Handed mode m (some b) ⟨s, 0⟩ { m with table := t } (·.freeSelector s)

namespace Memory

variable {m found : Memory} {mode : AddressingMode} {block : Option Block} {arg : PostArgument}

/-- What a routine is told is what it is handed. -/
theorem handed_of_tell (hr : m.table.Reachable) (h : m.tell mode block = .ok (arg, found)) :
    Handed mode m block arg.srb found (·.release arg) := by
  cases block with
  | none =>
    cases h
    exact .direct
  | some b =>
    cases mode with
    | protectedMode =>
      cases h
      exact .pointer b rfl
    | realMode =>
      rw [tell_real] at h
      split at h
      · rename_i s t ha
        cases h
        obtain ⟨hpos, hfree, ht⟩ := hr.descriptor?_alloc ha
        exact .mapped b s t rfl hpos hfree ht
      · cases h

/-- The block can be told unless it needs a selector and there is no room for one. -/
theorem exists_tell_iff (hr : m.table.Reachable) :
    (∃ told, m.tell mode block = .ok told) ↔
      (mode = .realMode → block ≠ none → m.table.HasRoom) := by
  cases block with
  | none => exact iff_of_true ⟨_, rfl⟩ fun _ h => absurd rfl h
  | some b =>
    cases mode with
    | protectedMode => exact iff_of_true ⟨_, rfl⟩ fun h => by cases h
    | realMode =>
      have hiff := hr.alloc_eq_none_iff b.range.base b.range.len
      rw [tell_real]
      split
      · rename_i s t ha
        refine iff_of_true ⟨_, rfl⟩ fun _ _ => ?_
        refine Classical.byContradiction fun hn => ?_
        rw [hiff.mpr hn] at ha
        cases ha
      · rename_i ha
        exact iff_of_false (by simp) fun h => hiff.mp ha (h rfl (by simp))

end Memory

/-- The memory that a routine finds has the caller's octets. -/
theorem Handed.octet {mode : AddressingMode} {m found : Memory} {block : Option Block}
    {srb : FarPtr} {back : Memory → Memory} (h : Handed mode m block srb found back) (a : Nat) :
    found.octet a = m.octet a := by
  cases h <;> rfl

/-! ## When a routine is due -/

/-- A post routine is due at an entry when request `r` is done that was asked for in state `s`,
after the registrations `history`. -/
structure Manager.Due {σ : Type} (m : Manager σ) (mode : AddressingMode) (r : Request)
    (block : Option Block) (s : State σ) (history : List (Nat × Nat)) (entry : Nat) : Prop where
  fits : ∃ w, r.Fits s.memory mode w
  acquired : ∃ handle, (m.acquisition r.key s.registry s.world).outcome = .ok handle
  posting : r.posting = true
  /-- The request names the entry; a block does so by a pointer that is not null. -/
  pointer : ∃ ptr, r.postProc = some ptr ∧ (block ≠ none → ptr ≠ .null) ∧
    s.memory.resolve mode ptr 1 = .ok ⟨entry, 1⟩
  registered : ∃ n, (entry, n) ∈ history
  /-- There is room for a selector if the block needs one. -/
  room : mode = .realMode → block ≠ none → s.memory.table.HasRoom

/-- The block shows the status of a request. -/
def Block.Shows (b : Block) (m : Memory) (r : Request) : Prop :=
  m.octet (b.range.base + 1) = r.status.toByte ∧ m.octet (b.range.base + 24) = r.hostStatus ∧
    m.octet (b.range.base + 25) = r.targetStatus

theorem Memory.shows_stamp {m : Memory} {b : Block} (hb : b.Fits m) (r : Request) :
    b.Shows (m.stamp r (some b)) r := by
  have h1 : Srb.statusOffset = 1 := rfl
  have h24 : Srb.hostStatusOffset = 24 := rfl
  have h25 : Srb.targetStatusOffset = 25 := rfl
  refine ⟨?_, ?_, ?_⟩
  · rw [octet_stamp hb, if_neg (by omega), if_neg (by omega), if_pos (by omega)]
  · rw [octet_stamp hb, if_neg (by omega), if_pos (by omega)]
  · rw [octet_stamp hb, if_pos (by omega)]

/-- Some routine was registered last at an entry if any was registered there. -/
theorem Routines.exists_lookup_iff {history : List (Nat × Nat)} {entry : Nat} :
    (∃ n, history.reverse.lookup entry = some n) ↔ ∃ n, (entry, n) ∈ history := by
  rw [← Option.isSome_iff_exists, List.lookup_isSome_iff]
  constructor
  · rintro ⟨⟨a, n⟩, hp, he⟩
    obtain rfl : entry = a := beq_iff_eq.mp he
    exact ⟨n, List.mem_reverse.mp hp⟩
  · rintro ⟨n, hp⟩
    exact ⟨(entry, n), List.mem_reverse.mpr hp, beq_self_eq_true entry⟩

/-- The post routine of a block is not at the null pointer. -/
theorem Call.Asks.postProc_ne_null {m : Memory} {mode : AddressingMode} {call : Call} {r : Request}
    {block : Option Block} {ptr : FarPtr} (ha : call.Asks m mode r block) (hb : block ≠ none)
    (hp : r.postProc = some ptr) : ptr ≠ .null := by
  cases ha with
  | submit => exact absurd rfl hb
  | @send srb e range h =>
    have hp : (if (FarPtr.ofRaw e.postProc).isNull then none else some (.ofRaw e.postProc)) =
        some ptr := hp
    split at hp
    · cases hp
    · rename_i hn
      cases hp
      exact fun h0 => hn (FarPtr.isNull_iff.mpr h0)

namespace Manager

variable {σ : Type} {m : Manager σ} {mode : AddressingMode} {call : Call} {r : Request}
  {block : Option Block} {s u : State σ} {st : Status} {p : Option Posting}
  {history : List (Nat × Nat)}

theorem postEntry?_eq_some_iff {ptr : FarPtr} :
    postEntry? r = some ptr ↔ r.posting = true ∧ r.postProc = some ptr := by
  unfold postEntry?
  by_cases h : r.posting = true
  · rw [if_pos h]
    exact ⟨fun hp => ⟨h, hp⟩, And.right⟩
  · rw [if_neg h]
    exact iff_of_false (by simp) fun hp => h hp.1

theorem postEntry?_settle (r : Request) (st : Status) :
    postEntry? (r.settle st) = postEntry? r := by
  cases st <;> rfl

/-- When a request is settled, its posting is the one that is due. -/
theorem due_iff_posting (hr : s.Reached history) (ha : call.Asks s.memory mode r block)
    {w : Windows Range} {handle : Handle} (hw : r.Fits s.memory mode w)
    (hd : (m.acquisition r.key s.registry s.world).outcome = .ok handle) {memory : Memory}
    (hsize : memory.size = s.memory.size) (htable : memory.table = s.memory.table) (entry : Nat) :
    m.Due mode r block s history entry ↔
      ∃ q, posting? mode (r.settle st) block memory s.routines = some q ∧ q.entry = entry := by
  have hresolve := Memory.resolve_congr hsize htable mode
  have hfind : ∀ a, s.routines.find? a = history.reverse.lookup a := by
    rw [hr.routines]
    exact Routines.find?_ofHistory history
  have htell : (∃ told, memory.tell mode block = .ok told) ↔
      (mode = .realMode → block ≠ none → memory.table.HasRoom) :=
    Memory.exists_tell_iff (htable ▸ hr.table)
  rw [htable] at htell
  constructor
  · intro due
    obtain ⟨ptr, hp, -, hptr⟩ := due.pointer
    obtain ⟨n, hn⟩ := Routines.exists_lookup_iff.mpr due.registered
    obtain ⟨⟨arg, found⟩, ht⟩ := htell.mpr due.room
    refine ⟨⟨entry, n, arg, r.settle st, found⟩, posting?_eq_some_iff.mpr ?_, rfl⟩
    refine ⟨ptr, ⟨entry, 1⟩, ?_, (hresolve ptr 1).trans hptr, (hfind entry).trans hn, ht, rfl, rfl⟩
    exact (postEntry?_settle r st).trans (postEntry?_eq_some_iff.mpr ⟨due.posting, hp⟩)
  · rintro ⟨q, hq, rfl⟩
    obtain ⟨ptr, range, he, hptr, hn, ht, hentry, -⟩ := posting?_eq_some_iff.mp hq
    obtain ⟨hposting, hp⟩ := postEntry?_eq_some_iff.mp ((postEntry?_settle r st).symm.trans he)
    have hrange : range = ⟨q.entry, 1⟩ := by
      rw [hentry, ← Memory.resolve_len hptr]
    rw [hfind, ← hentry] at hn
    exact
      { fits := ⟨w, hw⟩
        acquired := ⟨handle, hd⟩
        posting := hposting
        pointer := ⟨ptr, hp, fun hb => ha.postProc_ne_null hb hp,
          (hresolve ptr 1).symm.trans (hrange ▸ hptr)⟩
        registered := Routines.exists_lookup_iff.mp ⟨_, hn⟩
        room := htell.mp ⟨_, ht⟩ }

/-- A turn of a call that asks for a request posts what is due. -/
theorem Turn.due_iff (ht : m.Turn mode call s (.ok st) u p) (hr : s.Reached history)
    (ha : call.Asks s.memory mode r block) (entry : Nat) :
    m.Due mode r block s history entry ↔ ∃ q, p = some q ∧ q.entry = entry := by
  have hnone : ¬ m.Due mode r block s history entry →
      (m.Due mode r block s history entry ↔ ∃ q : Posting, none = some q ∧ q.entry = entry) :=
    fun h => iff_of_false h (by simp)
  obtain ⟨hsize, htable, -⟩ := ht.frame
  cases ht with
  | aside es hc hn => exact absurd ⟨r, block, ha⟩ hn
  | rejected es ha' hu =>
    obtain ⟨rfl, rfl⟩ := ha.unique ha'
    refine hnone fun due => ?_
    obtain ⟨w, hw⟩ := due.fits
    exact hw.not_unfit hu
  | unavailable es ha' hw hd =>
    obtain ⟨rfl, rfl⟩ := ha.unique ha'
    refine hnone fun due => ?_
    obtain ⟨handle, hacq⟩ := due.acquired
    rw [hd] at hacq
    cases hacq
  | settled es ha' hw hd hj =>
    obtain ⟨rfl, rfl⟩ := ha.unique ha'
    exact due_iff_posting hr ha hw hd hsize htable entry

/-- When the turn is over the block shows the status of its request. -/
theorem Turn.shows (ht : m.Turn mode call s (.ok st) u p)
    (ha : call.Asks s.memory mode r block) :
    ∀ b, block = some b → b.Shows u.memory (r.settle st) := by
  rintro b rfl
  have hb := ha.fits b rfl
  cases ht with
  | aside es hc hn => exact absurd ⟨r, _, ha⟩ hn
  | rejected es ha' | unavailable es ha' =>
    obtain ⟨rfl, rfl⟩ := ha.unique ha'
    exact Memory.shows_stamp hb _
  | @settled _ _ w handle _ es ha' =>
    obtain ⟨rfl, rfl⟩ := ha.unique ha'
    have hsize : (m.journey r (some b) w handle s).memory.size = s.memory.size :=
      (size_trip ..).trans (Memory.size_stamp ..)
    exact Memory.shows_stamp (hb.of_size hsize) _

/-- A request that was handed over is returned settled. -/
theorem eq_settle_of_submit {q : Request} {t : State σ}
    (h : (m.submit mode r).exec s = (.ok q, t)) : q = r.settle q.status := by
  have hb : ∀ b, (none : Option Block) = some b → b.Fits s.memory := by simp
  have hsettled : ∀ st, q = r.settle st → q = r.settle q.status := by
    rintro st rfl
    rw [status_settle]
  have h : (m.execute mode r none).exec s = (.ok q, t) := h
  by_cases hu : r.Unfit s.memory mode
  · obtain ⟨es, he⟩ := m.execute_rejected hb hu
    cases (he m.routine).symm.trans h
    exact hsettled _ rfl
  obtain ⟨w, hw⟩ := Request.exists_fits hu
  cases hd : (m.acquisition r.key s.registry s.world).outcome with
  | error e =>
    obtain ⟨es, he⟩ := m.execute_unavailable hb hw hd
    cases (he m.routine).symm.trans h
    exact hsettled _ rfl
  | ok handle =>
    obtain ⟨es, he⟩ := m.execute_carried hb hw hd
    have he := (he m.routine).symm.trans h
    cases hj : (m.journey r none w handle s).outcome with
    | error e =>
      rw [hj] at he
      cases he
    | ok st =>
      rw [hj] at he
      exact hsettled st (eq_of_returned m mode _ he)

/-- Whatever the routines do, a call comes to a status `st` in a state `u`. If it asks for a request
and a post routine is due then, one is called: the one that was registered last at its entry, with
the settled request and what is handed to it of the block, which shows the status by then. After the
routine only the selector of the block is given back. If none is due, none is called. -/
theorem posting_exact (m : Manager σ) (hh : m.host.Steady) (mode : AddressingMode) (call : Call)
    (hr : s.Reached history) :
    ∃ st u p, (∀ f, ((m.withRoutines f).perform mode call).exec s = conclude f st u p) ∧
      u.memory.table = s.memory.table ∧ u.routines = s.routines ∧
      ((¬ ∃ r block, call.Asks s.memory mode r block) → p = none) ∧
      ∀ r block, call.Asks s.memory mode r block →
        (∀ entry, m.Due mode r block s history entry ↔ ∃ q, p = some q ∧ q.entry = entry) ∧
        (∀ q, p = some q → history.reverse.lookup q.entry = some q.routine ∧
          q.request = r.settle st ∧
          Handed mode u.memory block q.arg.srb q.memory (·.release q.arg) ∧
          ∀ b, block = some b → b.Shows q.memory (r.settle st)) ∧
        (call = .submit r → ∀ f q t, ((m.withRoutines f).submit mode r).exec s = (.ok q, t) →
          q = r.settle st) := by
  obtain ⟨o, u, p, ht, hx⟩ := m.perform_turn mode call s
  obtain ⟨st, rfl⟩ := ht.exists_status hh
  obtain ⟨-, htable, hroutines⟩ := ht.frame
  refine ⟨st, u, p, hx, htable, hroutines, fun hn => ?_, fun r block ha =>
    ⟨ht.due_iff hr ha, ?_, ?_⟩⟩
  · cases p with
    | none => rfl
    | some q =>
      obtain ⟨r, block, st, ha, -⟩ := ht.posted
      exact absurd ⟨r, block, ha⟩ hn
  · rintro q rfl
    obtain ⟨r', block', st', ha', -, ho, hrequest, hn, htell⟩ := ht.posted
    obtain ⟨rfl, rfl⟩ := ha.unique ha'
    cases ho
    have hhanded := Memory.handed_of_tell (htable ▸ hr.table) htell
    refine ⟨?_, hrequest, hhanded, fun b hb => ?_⟩
    · rw [← Routines.find?_ofHistory, ← hr.routines]
      exact hn
    · obtain ⟨h1, h24, h25⟩ := ht.shows ha b hb
      unfold Block.Shows
      rw [hhanded.octet, hhanded.octet, hhanded.octet]
      exact ⟨h1, h24, h25⟩
  · rintro rfl f q t hq
    have hs := eq_settle_of_submit hq
    have hm : ((m.withRoutines f).perform mode (.submit r)).exec s = (.ok q.status, t) :=
      Run.exec_bind_ok hq _
    have hst : q.status = st := eq_of_conclude ((hx f).symm.trans hm)
    rw [hst] at hs
    exact hs

end Manager

/-- A block whose post routine is at `0000:0080`. -/
def postedDraft : Srb.Draft := (readyDraft.flags ⟨1⟩).postProc ⟨0, 0x80⟩

theorem blockAt_postedDraft : BlockAt ((Memory.zeroed 256).put 16 postedDraft.build) .realMode
    ⟨0, 16⟩ postedDraft.header ⟨16, 84⟩ :=
  BlockAt.of_draft (by decide) rfl (by decide +kernel) rfl

/-- Of two routines that were registered at 128 the block at `0000:0010` has the later one called,
with a selector for its 84 octets. -/
theorem posted_block_called :
    let m := Manager.constant (Bytes.zeros 36)
    let s := { State.initial ((Memory.zeroed 256).put 16 postedDraft.build) with
      routines := .ofHistory [(128, 3), (128, 7)] }
    let call := Call.send ⟨0, 16⟩
    m.host.Steady ∧ s.Reached [(128, 3), (128, 7)] ∧
      ∃ r, call.Asks s.memory .realMode r (some ⟨⟨0, 16⟩, ⟨16, 84⟩⟩) ∧
        m.Due .realMode r (some ⟨⟨0, 16⟩, ⟨16, 84⟩⟩) s [(128, 3), (128, 7)] 128 ∧
        ∃ st u q selector, (∀ f, ((m.withRoutines f).perform .realMode call).exec s =
            Manager.conclude f st u (some q)) ∧
          q.routine = 7 ∧ q.request = r.settle st ∧ q.arg.srb = ⟨selector, 0⟩ ∧
          q.memory.table.lookup selector = some ⟨16, 83⟩ := by
  intro m s call
  have hb : BlockAt s.memory .realMode ⟨0, 16⟩ postedDraft.header ⟨16, 84⟩ := blockAt_postedDraft
  have hr : s.Reached [(128, 3), (128, 7)] := ⟨.empty, rfl⟩
  have hh : m.host.Steady := Host.steady_constant _
  have ha : call.Asks s.memory .realMode _ _ := .send hb
  have hdue : m.Due .realMode (postedDraft.header.requestIn s.memory ⟨0, 16⟩ ⟨16, 84⟩)
      (some ⟨⟨0, 16⟩, ⟨16, 84⟩⟩) s [(128, 3), (128, 7)] 128 :=
    { fits := Request.exists_fits (by decide +kernel)
      acquired := ⟨_, rfl⟩
      posting := by decide +kernel
      pointer := ⟨⟨0, 0x80⟩, rfl, fun _ => by decide, rfl⟩
      registered := ⟨7, by decide⟩
      room := fun _ _ => ⟨1, by decide, by decide, rfl⟩ }
  obtain ⟨st, u, p, hx, -, -, -, hp⟩ := m.posting_exact hh .realMode call hr
  obtain ⟨hp, hq, -⟩ := hp _ _ ha
  obtain ⟨q, rfl, hentry⟩ := (hp 128).mp hdue
  obtain ⟨hlookup, hrequest, hhanded, -⟩ := hq q rfl
  rw [hentry] at hlookup
  refine ⟨hh, hr, _, ha, hdue, st, u, q, ?_⟩
  generalize q.arg.srb = srb, q.memory = found,
    (fun m => Memory.release m q.arg) = back at hhanded ⊢
  cases hhanded with
  | pointer _ hmode => cases hmode
  | mapped _ selector t _ _ _ ht =>
    refine ⟨selector, hx, (Option.some.inj hlookup).symm, hrequest, rfl, ?_⟩
    exact (ht _).trans (if_pos rfl)

end AspiManager
