import AspiManager.Proofs.Program
import Mathlib.Logic.Function.Basic

/-!
# Selectors of post routines

A routine whose block was sent in real mode is handed a selector for it. As long as the routine
runs, the selector maps the block, however the calls of the routine nest; when the routine has
returned, the selector is given back. So a run leaves the table that the caller's own allocations
and frees make of the one it began with (`aliases_balanced`). In protected mode no selector is made.

The caller's own work is kept in a `Ledger`. `Accounted` is the invariant: the table holds what the
ledger says and, at indices that the ledger leaves free, the selectors that the running routines
hold.
-/

namespace AspiManager

open DescriptorTable (index segment)

/-! ## The ledger -/

/-- What a caller has at each index of the table. -/
abbrev Ledger := Nat → Option Descriptor

/-- What a deed that is done with table `t` makes of a ledger. -/
def Deed.book (d : Deed) (t : DescriptorTable) (l : Ledger) : Ledger :=
  match d with
  | .allocate base len =>
    match t.alloc base len with
    | some (s, _) => Function.update l (index s) (some (segment base len))
    | none => l
  | .free s => Function.update l (index s) none
  | .write .. | .register .. => l

namespace Moment

variable {σ : Type}

/-- What a moment makes of a ledger: only what a caller does itself is booked. -/
def book (l : Ledger) (x : Moment σ) : Ledger :=
  match x.act with
  | .deed d => d.book x.state.memory.table l
  | .call .. | .finish => l

/-- A selector is freed that a running routine was handed. -/
def FreesHeld (x : Moment σ) : Prop :=
  ∃ s, x.act = .deed (.free s) ∧ ∃ a ∈ x.held, index s = index a.selector

end Moment

/-! ## Selectors that are held -/

/-- The selector was not in use when the block was sent, and table `t` maps it to the block. -/
structure Alias.InPlace (a : Alias) (t : DescriptorTable) : Prop where
  unused : a.before.table.lookup a.selector = none
  mapped : ∃ e range d, BlockAt a.before .realMode a.srb e range ∧ t.lookup a.selector = some d ∧
    d.base = range.base ∧ d.limit.toNat = range.len - 1

theorem Alias.InPlace.of_lookup {a : Alias} {t t' : DescriptorTable} (h : a.InPlace t)
    (ht : t'.lookup a.selector = t.lookup a.selector) : a.InPlace t' := by
  obtain ⟨e, range, d, hb, hd, hbase, hlimit⟩ := h.mapped
  exact ⟨h.unused, e, range, d, hb, ht.trans hd, hbase, hlimit⟩

/-- The table holds the entries of a ledger, and beside them the selectors that are held. -/
structure Accounted (held : List Alias) (t : DescriptorTable) (l : Ledger) : Prop where
  reachable : t.Reachable
  inPlace : ∀ a ∈ held, a.InPlace t
  unbooked : ∀ a ∈ held, l (index a.selector) = none
  booked : ∀ i, (∀ a ∈ held, i ≠ index a.selector) → t.descriptor? i = l i

namespace Accounted

variable {held : List Alias} {t t' : DescriptorTable} {l : Ledger} {s : UInt16}

/-- A selector that is not in use is not held. -/
theorem ne_of_lookup (h : Accounted held t l) (hs : t.lookup s = none) {a : Alias}
    (ha : a ∈ held) : index s ≠ index a.selector := by
  intro he
  obtain ⟨e, range, d, -, hd, -, -⟩ := (h.inPlace a ha).mapped
  unfold DescriptorTable.lookup at hs hd
  rw [he, hd] at hs
  cases hs

/-- An entry that changes in the table and in the ledger, at an index that is not held. -/
theorem update (h : Accounted held t l) (hr : t'.Reachable) (hs : ∀ a ∈ held,
    index s ≠ index a.selector) {d : Option Descriptor}
    (ht : ∀ i, t'.descriptor? i = if i = index s then d else t.descriptor? i) :
    Accounted held t' (Function.update l (index s) d) where
  reachable := hr
  inPlace a ha := by
    refine (h.inPlace a ha).of_lookup ?_
    exact (ht _).trans (if_neg fun he => hs a ha he.symm)
  unbooked a ha := by
    rw [Function.update_of_ne fun he => hs a ha he.symm]
    exact h.unbooked a ha
  booked i hi := by
    rw [ht i]
    by_cases he : i = index s
    · rw [if_pos he, he, Function.update_self]
    · rw [if_neg he, Function.update_of_ne he]
      exact h.booked i hi

/-- A deed that frees none of the selectors that are held. -/
theorem deed {m : Memory} (h : Accounted held m.table l) (d : Deed)
    (hfree : ∀ s, d = .free s → ∀ a ∈ held, index s ≠ index a.selector) :
    Accounted held (m.perform d).table (d.book m.table l) := by
  have hr := h.reachable.perform d
  cases d with
  | write | register => exact h
  | free s => exact h.update hr (hfree s rfl) (DescriptorTable.descriptor?_free m.table s)
  | allocate base len =>
    unfold Deed.book
    unfold Memory.perform Memory.allocSelector at hr ⊢
    dsimp only at hr ⊢
    cases ha : m.table.alloc base len with
    | none => exact h
    | some st =>
      obtain ⟨s, t⟩ := st
      rw [ha] at hr
      obtain ⟨-, hs, ht⟩ := h.reachable.descriptor?_alloc ha
      exact h.update hr (fun a => h.ne_of_lookup hs) ht

/-- A selector that is handed out is held from then on. -/
theorem hold (h : Accounted held t l) (hr : t'.Reachable) {a : Alias} {d : Descriptor}
    (hs : t.lookup a.selector = none) (ha : a.InPlace t')
    (ht : ∀ i, t'.descriptor? i = if i = index a.selector then some d else t.descriptor? i) :
    Accounted (a :: held) t' l where
  reachable := hr
  inPlace b hb := by
    rcases List.mem_cons.mp hb with rfl | hb
    · exact ha
    · refine (h.inPlace b hb).of_lookup ?_
      exact (ht _).trans (if_neg fun he => h.ne_of_lookup hs hb he.symm)
  unbooked b hb := by
    rcases List.mem_cons.mp hb with rfl | hb
    · rw [← h.booked _ fun c hc => h.ne_of_lookup hs hc]
      exact hs
    · exact h.unbooked b hb
  booked i hi := by
    have hne := hi a List.mem_cons_self
    rw [ht i, if_neg hne]
    exact h.booked i fun b hb => hi b (List.mem_cons_of_mem a hb)

/-- A selector that is given back is not held any more. -/
theorem release {a : Alias} (h : Accounted (a :: held) t l)
    (hne : ∀ b ∈ held, index a.selector ≠ index b.selector) :
    Accounted held (t.free a.selector) l := by
  have hfree := t.descriptor?_free a.selector
  have hmem := fun b (hb : b ∈ held) => List.mem_cons_of_mem a hb
  refine ⟨h.reachable.free _, fun b hb => ?_, fun b hb => h.unbooked b (hmem b hb), fun i hi => ?_⟩
  · refine (h.inPlace b (hmem b hb)).of_lookup ?_
    exact (hfree _).trans (if_neg fun he => hne b hb he.symm)
  · rw [hfree i]
    by_cases he : i = index a.selector
    · rw [if_pos he, he]
      exact (h.unbooked a List.mem_cons_self).symm
    · rw [if_neg he]
      refine h.booked i fun b hb => ?_
      rcases List.mem_cons.mp hb with rfl | hb
      · exact he
      · exact hi b hb

end Accounted

/-! ## Postings -/

/-- What a posting lends to its routine, of a call that was made with memory `before`. -/
inductive Lent (mode : AddressingMode) (call : Call) (before : Memory) (q : Posting) : Prop
  /-- There is no block, or its pointer is handed on. -/
  | nothing (table : q.memory.table = before.table) (release : ∀ m : Memory, m.release q.arg = m)
    (hand : ∀ held, call.hand mode before q.call.srb held = held)
  /-- A block that was sent in real mode is mapped. -/
  | selector {srb : FarPtr} {e : Srb.Exec} {range : Range} {s : UInt16} (hmode : mode = .realMode)
    (hb : BlockAt before .realMode srb e range) (hs : before.table.lookup s = none)
    (table : ∀ i, q.memory.table.descriptor? i =
      if i = index s then some (segment range.base range.len) else before.table.descriptor? i)
    (release : ∀ m : Memory, (m.release q.arg).table = m.table.free s)
    (hand : ∀ held, call.hand mode before q.call.srb held = ⟨srb, before, s⟩ :: held)

theorem BlockAt.len_le {m : Memory} {mode : AddressingMode} {srb : FarPtr} {e : Srb.Exec}
    {range : Range} (h : BlockAt m mode srb e range) : 0 < range.len ∧ range.len ≤ 0x10000 := by
  have hlen := h.len_eq
  have := e.cdbLength.toNat_lt
  have := e.senseLength.toNat_lt
  unfold Srb.Exec.totalLength Srb.Exec.fixedLength at hlen
  omega

namespace Manager

variable {σ : Type} {m : Manager σ} {mode : AddressingMode} {call : Call} {s u : State σ}
  {q : Posting} {held : List Alias} {l : Ledger}

theorem Turn.lent {o : Except Fault Status} (h : m.Turn mode call s o u (some q))
    (hr : s.memory.table.Reachable) : Lent mode call s.memory q := by
  obtain ⟨r, block, st, ha, -, -, -, -, ht⟩ := h.posted
  obtain ⟨-, htable, -⟩ := h.frame
  have hhanded := Memory.handed_of_tell (htable ▸ hr) ht
  have hcall : q.call.srb = q.arg.srb := rfl
  rw [← hcall] at hhanded
  generalize hfound : q.memory = found, hsrb : q.call.srb = srb,
    hback : (fun m => Memory.release m q.arg) = back at hhanded
  have hrelease := fun m => congrFun hback m
  cases hhanded with
  | direct =>
    refine .nothing (hfound ▸ htable) hrelease fun held => ?_
    cases ha
    cases mode <;> rfl
  | pointer b hmode =>
    subst hmode
    exact .nothing (hfound ▸ htable) hrelease fun held => rfl
  | mapped b selector t hmode _ hfree htab =>
    subst hmode
    cases ha with
    | send hb =>
      rw [htable] at hfree htab
      refine .selector rfl hb hfree ?_ (fun m => ?_) fun held => ?_
      · rw [hfound]
        exact htab
      · exact congrArg Memory.table (hrelease m)
      · rw [hsrb]
        rfl

end Manager

namespace Lent

variable {mode : AddressingMode} {call : Call} {before : Memory} {q : Posting} {held : List Alias}
  {l : Ledger}

/-- When its routine is called, the selector that is lent is held. -/
theorem enter (h : Lent mode call before q) (hr : q.memory.table.Reachable)
    (ha : Accounted held before.table l) :
    Accounted (call.hand mode before q.call.srb held) q.memory.table l := by
  cases h with
  | nothing table _ hand =>
    rw [hand, table]
    exact ha
  | @selector srb e range s _ hb hs table _ hand =>
    rw [hand]
    refine ha.hold hr hs ⟨hs, e, range, segment range.base range.len, hb, ?_, rfl, ?_⟩ table
    · exact (table _).trans (if_pos rfl)
    · exact DescriptorTable.limit_segment hb.len_le.1 hb.len_le.2 range.base

/-- When its routine has returned, it is not held any more. -/
theorem leave (h : Lent mode call before q) {l' : Ledger} (hbefore : Accounted held before.table l')
    {m : Memory} (ha : Accounted (call.hand mode before q.call.srb held) m.table l) :
    Accounted held (m.release q.arg).table l := by
  cases h with
  | nothing _ release hand =>
    rw [hand] at ha
    rw [release]
    exact ha
  | selector _ _ hs _ release hand =>
    rw [hand] at ha
    rw [release]
    exact ha.release fun b hb => hbefore.ne_of_lookup hs hb

end Lent

/-! ## Runs -/

section

variable {σ : Type} {m : Manager σ} {rep : Repertoire σ} {depth : Nat} {held : List Alias}
  {p : Program σ} {s t : State σ} {ms : List (Moment σ)} {o : Except Fault Unit} {l : Ledger}

theorem Accounted.turn {mode : AddressingMode} {call : Call} {u : State σ}
    {o : Except Fault Status} {q : Option Posting} (h : Accounted held s.memory.table l)
    (ht : m.Turn mode call s o u q) : Accounted held u.memory.table l := by
  obtain ⟨-, htable, -⟩ := ht.frame
  rw [htable]
  exact h

/-- Throughout a run that frees no selector that is held, the selectors that are held map their
blocks, and a run that does not break down leaves the table to its ledger. -/
theorem Accounted.course (h : Accounted held s.memory.table l)
    (hc : Course m rep depth held p s ms o t) (hfree : ∀ x ∈ ms, ¬ x.FreesHeld) :
    (∀ x ∈ ms, ∀ a ∈ x.held, a.InPlace x.state.memory.table) ∧
      (o = .ok () → Accounted held t.memory.table (ms.foldl Moment.book l)) := by
  induction hc generalizing l with
  | done =>
    refine ⟨fun x hx a ha => ?_, fun _ => h⟩
    rw [List.mem_singleton] at hx
    subst hx
    exact h.inPlace a ha
  | look _ ih => exact ih h hfree
  | @deed _ held d next s t ms o _ ih =>
    have hd : ∀ sel, d = .free sel → ∀ a ∈ held, index sel ≠ index a.selector := by
      rintro sel rfl a ha he
      exact hfree _ List.mem_cons_self ⟨sel, rfl, a, ha, he⟩
    obtain ⟨hin, hend⟩ := ih (h.deed d hd) fun x hx => hfree x (List.mem_cons_of_mem _ hx)
    exact ⟨List.forall_mem_cons.mpr ⟨h.inPlace, hin⟩, hend⟩
  | call ht _ ih =>
    obtain ⟨hin, hend⟩ := ih (h.turn ht) fun x hx => hfree x (List.mem_cons_of_mem _ hx)
    exact ⟨List.forall_mem_cons.mpr ⟨h.inPlace, hin⟩, hend⟩
  | crashed ht =>
    refine ⟨fun x hx a ha => ?_, fun he => by cases he⟩
    rw [List.mem_singleton] at hx
    subst hx
    exact h.inPlace a ha
  | tooDeep ht =>
    refine ⟨fun x hx a ha => ?_, fun he => by cases he⟩
    rw [List.mem_singleton] at hx
    subst hx
    exact h.inPlace a ha
  | @posted _ _ _ _ _ _ _ _ _ _ q inner ms _ ht _ _ ihrun ih =>
    have hlent := ht.lent h.reachable
    -- The routine starts with one more selector, and the program goes on without it.
    have hq := h.reachable.posting ht
    obtain ⟨hin, hend⟩ := ihrun (hlent.enter hq h) fun x hx =>
      hfree x (List.mem_cons_of_mem _ (List.mem_append_left _ hx))
    obtain ⟨hin', hend'⟩ := ih (hlent.leave h (hend rfl)) fun x hx =>
      hfree x (List.mem_cons_of_mem _ (List.mem_append_right _ hx))
    refine ⟨List.forall_mem_cons.mpr ⟨h.inPlace, List.forall_mem_append.mpr ⟨hin, hin'⟩⟩, ?_⟩
    intro ho
    have hfold := hend' ho
    rw [← List.foldl_append] at hfold
    exact hfold
  | broken ht _ ihrun =>
    have hlent := ht.lent h.reachable
    have hq := h.reachable.posting ht
    obtain ⟨hin, -⟩ := ihrun (hlent.enter hq h) fun x hx => hfree x (List.mem_cons_of_mem _ hx)
    exact ⟨List.forall_mem_cons.mpr ⟨h.inPlace, hin⟩, fun he => by cases he⟩

/-- The course of every run of a program: as long as no selector is freed that a running routine was
handed, every selector that is held maps its block, and was not in use before; and when the run is
over, the table is what the allocations and frees of the program and of its routines make of the one
before. A call in protected mode leaves the table alone, and hands it to the routine as it is. -/
theorem Manager.aliases_balanced (m : Manager σ) (rep : Repertoire σ) (depth : Nat) (p : Program σ)
    {s : State σ} (hr : s.memory.table.Reachable) :
    ∃ o t, (m.play rep depth p).exec s = (o, t) ∧
      (∃ ms, Course m rep depth [] p s ms o t) ∧
      (∀ ms, Course m rep depth [] p s ms o t → (∀ x ∈ ms, ¬ x.FreesHeld) →
        (∀ x ∈ ms, ∀ a ∈ x.held, a.InPlace x.state.memory.table) ∧
        (o = .ok () → t.memory.table.descriptor? =
          ms.foldl Moment.book s.memory.table.descriptor?)) ∧
      ∀ call, ∃ o u p, (∀ f, ((m.withRoutines f).perform .protectedMode call).exec s =
          finish f o u p) ∧ u.memory.table = s.memory.table ∧
        ∀ q, p = some q → q.memory.table = s.memory.table ∧ ∀ v : State σ, v.leaving q = v := by
  obtain ⟨ms, hc⟩ := m.play_course rep depth p [] s
  have h : Accounted [] s.memory.table s.memory.table.descriptor? :=
    ⟨hr, by simp, by simp, fun _ _ => rfl⟩
  refine ⟨_, _, rfl, ⟨ms, hc⟩, fun ms hc hfree => ?_, fun call => ?_⟩
  · obtain ⟨hin, hend⟩ := h.course hc hfree
    exact ⟨hin, fun ho => funext fun i => (hend ho).booked i (by simp)⟩
  · obtain ⟨o, u, p, ht, hx⟩ := m.perform_turn .protectedMode call s
    obtain ⟨-, htable, -⟩ := ht.frame
    refine ⟨o, u, p, hx, htable, ?_⟩
    rintro q rfl
    cases ht.lent hr with
    | nothing table release =>
      refine ⟨table, fun v => ?_⟩
      unfold State.leaving
      rw [release]
    | selector hmode => cases hmode

end

/-- A caller that sends the block at `0000:0010`. -/
def sendPosted : Program Unit := .call .realMode (.send ⟨0, 16⟩) fun _ => .done

/-- Routines that allocate a selector and keep it. -/
def keepSelector : Repertoire Unit := fun _ _ => .deed (.allocate 0x30 8) .done

theorem not_freesHeld_keepSelector {m : Manager Unit} {depth : Nat} {s t : State Unit}
    {ms : List (Moment Unit)} {o : Except Fault Unit}
    (h : Course m keepSelector depth [] sendPosted s ms o t) : ∀ x ∈ ms, ¬ x.FreesHeld := by
  have hdone : ∀ {depth held} {s t : State Unit} {ms : List (Moment Unit)} {o},
      Course m keepSelector depth held .done s ms o t → ∀ x ∈ ms, ¬ x.FreesHeld := by
    intro depth held s t ms o h
    cases h
    simp [Moment.FreesHeld]
  have hkeep : ∀ {depth held n c} {s t : State Unit} {ms : List (Moment Unit)} {o},
      Course m keepSelector depth held (keepSelector n c) s ms o t → ∀ x ∈ ms, ¬ x.FreesHeld := by
    intro depth held n c s t ms o h
    cases h with
    | deed h => exact List.forall_mem_cons.mpr ⟨by simp [Moment.FreesHeld], hdone h⟩
  cases h with
  | call _ h => exact List.forall_mem_cons.mpr ⟨by simp [Moment.FreesHeld], hdone h⟩
  | crashed | tooDeep => simp [Moment.FreesHeld]
  | posted _ run h =>
    refine List.forall_mem_cons.mpr ⟨by simp [Moment.FreesHeld], ?_⟩
    exact List.forall_mem_append.mpr ⟨hkeep run, hdone h⟩
  | broken _ run => exact List.forall_mem_cons.mpr ⟨by simp [Moment.FreesHeld], hkeep run⟩

/-- While the routine of the block runs, index 1 maps the block, so that the selector it allocates
is at index 2; afterwards there is only that. -/
theorem kept_selector_balanced :
    let m := Manager.constant (Bytes.zeros 36)
    let s := { State.initial ((Memory.zeroed 256).put 16 postedDraft.build) with
      routines := .ofHistory [(128, 7)] }
    s.memory.table.Reachable ∧
      ∃ t ms, (m.play keepSelector 1 sendPosted).exec s = (.ok (), t) ∧
        Course m keepSelector 1 [] sendPosted s ms (.ok ()) t ∧
        (∀ x ∈ ms, ∀ a ∈ x.held, a.InPlace x.state.memory.table) ∧
        t.memory.table.descriptor? = ms.foldl Moment.book s.memory.table.descriptor? ∧
        t.memory.table.slots = #[none, some ⟨0x30, 7⟩] := by
  intro m s
  have hr : s.memory.table.Reachable := .empty
  let seen (x : Except Fault Unit × State Unit) := (x.1.toOption, x.2.memory.table.slots)
  have hseen : seen ((m.play keepSelector 1 sendPosted).exec s) =
      (some (), #[none, some ⟨0x30, 7⟩]) := by decide +kernel
  obtain ⟨o, t, hx, ⟨ms, hc⟩, hall, -⟩ := m.aliases_balanced keepSelector 1 sendPosted hr
  rw [hx] at hseen
  obtain ⟨hok, hslots⟩ := Prod.mk.inj hseen
  have ho : o = .ok () := eq_ok_of_toOption hok
  subst ho
  obtain ⟨hin, hend⟩ := hall ms hc (not_freesHeld_keepSelector hc)
  exact ⟨hr, t, ms, hx, hc, hin, hend rfl, hslots⟩

end AspiManager
