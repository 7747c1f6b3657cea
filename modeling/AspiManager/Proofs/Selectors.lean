import AspiManager.Memory.Address
import AspiManager.Proofs.Descriptors
import AspiManager.Proofs.Histories
import Mathlib.Data.Set.Card
import Mathlib.Order.Interval.Finset.Nat

/-!
# Selectors over a whole history

A caller makes and frees selectors in any order, and frees what it likes: selectors that it never
had, selectors that were freed before, the null selector. The history of its calls with their
answers (`Memory.serve`) determines the table as a map: an index is live with the last allocation
that was answered with a selector of this index, unless such a selector was freed since (`LiveAt`).
`Memory.reflects_serve` says that the table is this map: what is looked up, which index is handed
out next, and when there is none.

The induction is from the end of the history, and what it carries is that the entries of the table
are the live ones (`Entered`). That the table is a reachable one comes along with it, since indices
fit into a selector only in a table that did not grow past its capacity.
-/

namespace AspiManager

open DescriptorTable (index selector)

/-! ## Histories -/

/-- A call of a caller that manages its selectors itself. -/
inductive SelectorCall where
  | alloc (base len : Nat)
  | free (selector : UInt16)

/-- A call with its answer. -/
inductive SelectorEvent where
  | allocated (base len : Nat) (selector : UInt16)
  | refused (base len : Nat) (e : AddressError)
  | freed (selector : UInt16)

/-- The table index that an event is about. -/
def SelectorEvent.index? : SelectorEvent → Option Nat
  | .allocated _ _ s | .freed s => some (index s)
  | .refused .. => none

namespace Memory

/-- A call is answered. A memory that has no selector to give stays as it is. -/
def answer (m : Memory) : SelectorCall → SelectorEvent × Memory
  | .alloc base len =>
    match m.allocSelector base len with
    | .ok (s, m) => (.allocated base len s, m)
    | .error e => (.refused base len e, m)
  | .free s => (.freed s, m.freeSelector s)

/-- Calls are answered one after the other: their history, and the memory after them. -/
def serve (m : Memory) (calls : List SelectorCall) : List SelectorEvent × Memory :=
  calls.foldl (fun (es, m) c => (es ++ [(m.answer c).1], (m.answer c).2)) ([], m)

end Memory

/-- `len` octets at `base` are the last that were allocated at an index, and were not freed. -/
def LiveAt (es : List SelectorEvent) (i base len : Nat) : Prop :=
  ∃ s before after, es = before ++ .allocated base len s :: after ∧ index s = i ∧
    ∀ e ∈ after, e.index? ≠ some i

/-- The indices that a history leaves live. -/
def live (es : List SelectorEvent) : Set Nat := {i | ∃ base len, LiveAt es i base len}

namespace Memory

/-- A memory whose table is the map that a history describes. -/
structure Reflects (m : Memory) (es : List SelectorEvent) : Prop where
  /-- No selector of the null index was handed out. -/
  null_unused : ∀ base len s, .allocated base len s ∈ es → index s ≠ 0
  /-- With the slot of the null index there are at most 8192. -/
  slots_le : m.table.slots.size + 1 ≤ 8192
  /-- There is no selector to give exactly if 8191 indices are live. -/
  full_iff : ∀ base len, m.allocSelector base len = .error .tableFull ↔ (live es).ncard = 8191
  /-- Nothing changes then. -/
  full_answer : ∀ base len, (live es).ncard = 8191 →
    m.answer (.alloc base len) = (.refused base len .tableFull, m)
  /-- Otherwise the lowest index that is not live is handed out, with the low bits set. -/
  lowest : ∀ base len, (live es).ncard ≠ 8191 → ∃ i s after, 1 ≤ i ∧ i ≤ 8191 ∧ i ∉ live es ∧
    (∀ j, 1 ≤ j → j < i → j ∈ live es) ∧ m.allocSelector base len = .ok (s, after) ∧
    s.toNat = i <<< 3 ||| 7
  /-- A selector, with any low bits, has the descriptor of what is live at its index. -/
  found_iff : ∀ s d, m.descriptor s = .ok d ↔ ∃ base len, LiveAt es (s.toNat >>> 3) base len ∧
    d.base = base ∧ d.limit.toNat = max 1 (min len 65536) - 1
  /-- A selector without one is refused by its name. -/
  missing : ∀ s, s.toNat >>> 3 ∉ live es → m.descriptor s = .error (.invalidSelector s)
  /-- To free an index that is not live changes no look-up. -/
  idle_free : ∀ s, s.toNat >>> 3 ∉ live es → ∀ t, (m.freeSelector s).descriptor t = m.descriptor t

end Memory

/-! ## One event more -/

section

variable {es : List SelectorEvent} {e : SelectorEvent} {i base len : Nat}

theorem not_liveAt_nil : ¬ LiveAt [] i base len := by
  rintro ⟨s, before, after, h, -⟩
  cases before <;> cases h

/-- What is live after one event more: what it allocated, or what was live and it leaves alone. -/
theorem liveAt_snoc_iff : LiveAt (es ++ [e]) i base len ↔
    (∃ s, e = .allocated base len s ∧ index s = i) ∨
      (e.index? ≠ some i ∧ LiveAt es i base len) := by
  constructor
  · rintro ⟨s, before, after, h, hs, hafter⟩
    rcases snoc_eq_append_cons_iff.mp h with ⟨-, -, he⟩ | ⟨between, rfl, rfl⟩
    · exact .inl ⟨s, he, hs⟩
    · refine .inr ⟨hafter e (by simp), s, before, between, rfl, hs, fun f hf => ?_⟩
      exact hafter f (List.mem_append_left _ hf)
  · rintro (⟨s, rfl, hs⟩ | ⟨he, s, before, after, rfl, hs, hafter⟩)
    · exact ⟨s, es, [], rfl, hs, fun e he => absurd he List.not_mem_nil⟩
    · refine ⟨s, before, after ++ [e], by simp, hs, fun f hf => ?_⟩
      rcases List.mem_append.mp hf with hf | hf
      · exact hafter f hf
      · rwa [List.mem_singleton.mp hf]

end

namespace Memory

variable {m m' : Memory} {es : List SelectorEvent} {e : SelectorEvent} {i base len : Nat}

theorem index_eq (s : UInt16) : index s = s.toNat >>> 3 := by
  unfold index
  rw [Nat.shiftRight_eq_div_pow]

theorem answer_of_some {s : UInt16} {t : DescriptorTable}
    (h : m.table.alloc base len = some (s, t)) :
    m.answer (.alloc base len) = (.allocated base len s, { m with table := t }) := by
  simp only [answer, allocSelector, h]

theorem answer_of_none (h : m.table.alloc base len = none) :
    m.answer (.alloc base len) = (.refused base len .tableFull, m) := by
  simp only [answer, allocSelector, h]

theorem serve_snoc (m : Memory) (calls : List SelectorCall) (c : SelectorCall) :
    m.serve (calls ++ [c]) = ((m.serve calls).1 ++ [((m.serve calls).2.answer c).1],
      ((m.serve calls).2.answer c).2) := by
  unfold serve
  rw [List.foldl_append]
  rfl

/-- The entries of the table are the live ones. -/
structure Entered (m : Memory) (es : List SelectorEvent) : Prop where
  reachable : m.table.Reachable
  null_unused : ∀ base len s, .allocated base len s ∈ es → index s ≠ 0
  entry_iff : ∀ i d, m.table.descriptor? i = some d ↔
    ∃ base len, LiveAt es i base len ∧ d = DescriptorTable.segment base len

namespace Entered

theorem nil (size : Nat) : Entered (zeroed size) [] where
  reachable := .empty
  null_unused base len s hs := absurd hs List.not_mem_nil
  entry_iff i d := by
    constructor
    · intro hd
      cases i with
      | zero => cases hd
      | succ i => simp [zeroed, DescriptorTable.empty, DescriptorTable.descriptor?] at hd
    · rintro ⟨base, len, hlive, -⟩
      exact absurd hlive not_liveAt_nil

/-- An event that does to the table what it does to the live indices. -/
theorem snoc (h : Entered m es) (hr : m'.table.Reachable)
    (hnull : ∀ base len s, e = .allocated base len s → index s ≠ 0)
    (ht : ∀ i d, m'.table.descriptor? i = some d ↔
      (∃ base len s, e = .allocated base len s ∧ index s = i ∧
        d = DescriptorTable.segment base len) ∨
          (e.index? ≠ some i ∧ m.table.descriptor? i = some d)) :
    Entered m' (es ++ [e]) where
  reachable := hr
  null_unused base len s hs := by
    rcases List.mem_append.mp hs with hs | hs
    · exact h.null_unused base len s hs
    · exact hnull base len s (List.mem_singleton.mp hs).symm
  entry_iff i d := by
    rw [ht i d, h.entry_iff i d]
    constructor
    · rintro (⟨base, len, s, he, hs, hd⟩ | ⟨he, base, len, hlive, hd⟩)
      · exact ⟨base, len, liveAt_snoc_iff.mpr (.inl ⟨s, he, hs⟩), hd⟩
      · exact ⟨base, len, liveAt_snoc_iff.mpr (.inr ⟨he, hlive⟩), hd⟩
    · rintro ⟨base, len, hlive, hd⟩
      rcases liveAt_snoc_iff.mp hlive with ⟨s, he, hs⟩ | ⟨he, hlive⟩
      · exact .inl ⟨base, len, s, he, hs, hd⟩
      · exact .inr ⟨he, base, len, hlive, hd⟩

theorem answer (h : Entered m es) (c : SelectorCall) :
    Entered (m.answer c).2 (es ++ [(m.answer c).1]) := by
  cases c with
  | free s =>
    refine h.snoc (h.reachable.free s) (fun base len s he => by cases he) fun i d => ?_
    have hfree := m.table.descriptor?_free s i
    change (m.table.free s).descriptor? i = some d ↔ _
    rw [hfree]
    by_cases hi : i = index s
    · simp [Memory.answer, SelectorEvent.index?, hi]
    · simp [Memory.answer, SelectorEvent.index?, hi, Ne.symm hi]
  | alloc base len =>
    cases ha : m.table.alloc base len with
    | none =>
      rw [answer_of_none ha]
      refine h.snoc h.reachable (fun base len s he => by cases he) fun i d => ?_
      simp [SelectorEvent.index?]
    | some st =>
      obtain ⟨s, t⟩ := st
      rw [answer_of_some ha]
      obtain ⟨hpos, -, ht⟩ := h.reachable.descriptor?_alloc ha
      refine h.snoc (h.reachable.alloc ha) (fun base len s he => ?_) fun i d => ?_
      · cases he
        exact Nat.ne_of_gt hpos
      · dsimp only
        rw [ht i]
        by_cases hi : i = index s
        · simp [SelectorEvent.index?, hi, eq_comm]
        · simp [SelectorEvent.index?, hi, Ne.symm hi]

/-- Over a history of any length. -/
theorem serve (size : Nat) (calls : List SelectorCall) :
    Entered ((zeroed size).serve calls).2 ((zeroed size).serve calls).1 := by
  induction calls using List.reverseRecOn with
  | nil => exact nil size
  | append_singleton calls c ih =>
    rw [serve_snoc]
    exact ih.answer c

/-! ## What is live -/

theorem mem_live_iff (h : Entered m es) : i ∈ live es ↔ m.table.descriptor? i ≠ none := by
  rw [Option.ne_none_iff_exists']
  constructor
  · rintro ⟨base, len, hlive⟩
    exact ⟨_, (h.entry_iff i _).mpr ⟨base, len, hlive, rfl⟩⟩
  · rintro ⟨d, hd⟩
    obtain ⟨base, len, hlive, -⟩ := (h.entry_iff i d).mp hd
    exact ⟨base, len, hlive⟩

/-- An index that is live fits into a selector. -/
theorem live_subset (h : Entered m es) : live es ⊆ Set.Icc 1 8191 := by
  intro i hi
  have hd := h.mem_live_iff.mp hi
  cases i with
  | zero => exact absurd rfl hd
  | succ i =>
    have hsize : m.table.slots.size ≤ 8191 := h.reachable.size_le
    have hlt : i < m.table.slots.size := by
      by_contra hge
      refine hd ?_
      rw [DescriptorTable.descriptor?_succ, Array.getElem?_eq_none (by omega)]
      rfl
    exact ⟨by omega, by omega⟩

theorem not_hasRoom_iff (h : Entered m es) : ¬ m.table.HasRoom ↔ (live es).ncard = 8191 := by
  have hcard : (Set.Icc 1 8191 : Set Nat).ncard = 8191 := by
    rw [Set.ncard_eq_toFinset_card', Set.toFinset_Icc, Nat.card_Icc]
  constructor
  · intro hfull
    have hsub : Set.Icc 1 8191 ⊆ live es := by
      rintro i ⟨hpos, hle⟩
      exact h.mem_live_iff.mpr fun hnone => hfull ⟨i, hpos, hle, hnone⟩
    rw [h.live_subset.antisymm hsub, hcard]
  · rintro hn ⟨i, hpos, hle, hnone⟩
    have hall : live es = Set.Icc 1 8191 :=
      Set.eq_of_subset_of_ncard_le h.live_subset (by rw [hn, hcard]) (Set.finite_Icc 1 8191)
    have hi : i ∈ live es := hall ▸ ⟨hpos, hle⟩
    exact h.mem_live_iff.mp hi hnone

/-! ## What is handed out -/

theorem allocSelector_error_iff (h : Entered m es) (base len : Nat) :
    m.allocSelector base len = .error .tableFull ↔ (live es).ncard = 8191 := by
  rw [← h.not_hasRoom_iff, ← h.reachable.alloc_eq_none_iff base len]
  unfold allocSelector
  cases m.table.alloc base len with
  | none => simp
  | some st => simp

/-- The lowest index that is free is handed out. -/
theorem lowest (h : Entered m es) (base len : Nat) (hn : (live es).ncard ≠ 8191) :
    ∃ i s after, 1 ≤ i ∧ i ≤ 8191 ∧ i ∉ live es ∧ (∀ j, 1 ≤ j → j < i → j ∈ live es) ∧
      m.allocSelector base len = .ok (s, after) ∧ s.toNat = i <<< 3 ||| 7 := by
  have hsome : m.table.alloc base len ≠ none :=
    mt (h.reachable.alloc_eq_none_iff base len).mp (mt h.not_hasRoom_iff.mp hn)
  obtain ⟨⟨s, t⟩, ha⟩ := Option.ne_none_iff_exists'.mp hsome
  obtain ⟨i, hi, rfl, -⟩ := DescriptorTable.alloc_eq_some ha
  obtain ⟨hnone, -, hlt⟩ := DescriptorTable.freeSlot?_eq_some hi
  have hle : i + 1 ≤ 8191 := hlt h.reachable.size_le
  refine ⟨i + 1, selector (i + 1), { m with table := t }, by omega, hle, ?_, ?_, ?_, ?_⟩
  · rw [h.mem_live_iff]
    exact not_not_intro hnone
  · intro j hpos hj
    obtain ⟨n, rfl⟩ : ∃ n, j = n + 1 := ⟨j - 1, by omega⟩
    exact h.mem_live_iff.mpr (DescriptorTable.ne_none_of_lt_freeSlot? hi (by omega))
  · unfold allocSelector
    rw [ha]
  · exact DescriptorTable.toNat_selector hle

end Entered

/-! ## What is looked up -/

theorem descriptor_ok_iff {s : UInt16} {d : Descriptor} :
    m.descriptor s = .ok d ↔ m.table.descriptor? (s.toNat >>> 3) = some d := by
  rw [← index_eq]
  unfold descriptor DescriptorTable.lookup
  cases m.table.descriptor? (index s) <;> simp

theorem descriptor_of_none {s : UInt16} (h : m.table.descriptor? (s.toNat >>> 3) = none) :
    m.descriptor s = .error (.invalidSelector s) := by
  rw [← index_eq] at h
  unfold descriptor DescriptorTable.lookup
  rw [h]

theorem toNat_limit_segment (base len : Nat) :
    (DescriptorTable.segment base len).limit.toNat = max 1 (min len 65536) - 1 := by
  unfold DescriptorTable.segment
  dsimp only
  rw [UInt16.toNat_ofNat', Nat.mod_eq_of_lt (by omega)]

theorem eq_segment_iff {d : Descriptor} : d = DescriptorTable.segment base len ↔
    d.base = base ∧ d.limit.toNat = max 1 (min len 65536) - 1 := by
  rw [← toNat_limit_segment base len, UInt16.toNat_inj]
  cases d
  simp [DescriptorTable.segment]

/-- After any calls on a new memory, the table is the map that their history describes. -/
theorem reflects_serve (size : Nat) (calls : List SelectorCall) :
    ((zeroed size).serve calls).2.Reflects ((zeroed size).serve calls).1 := by
  have h := Entered.serve size calls
  generalize (zeroed size).serve calls = r at h ⊢
  obtain ⟨es, m⟩ := r
  dsimp only at h ⊢
  refine ⟨h.null_unused, ?_, h.allocSelector_error_iff, fun base len hn => ?_, h.lowest,
    fun s d => ?_, fun s hs => ?_, fun s hs t => ?_⟩
  · have hsize : m.table.slots.size ≤ 8191 := h.reachable.size_le
    omega
  · exact answer_of_none ((h.reachable.alloc_eq_none_iff base len).mpr (h.not_hasRoom_iff.mpr hn))
  · simp only [descriptor_ok_iff, h.entry_iff, eq_segment_iff]
  · exact descriptor_of_none (not_not.mp (mt h.mem_live_iff.mpr hs))
  · have hnone := not_not.mp (mt h.mem_live_iff.mpr hs)
    have hsame : ∀ i, (m.table.free s).descriptor? i = m.table.descriptor? i := by
      intro i
      rw [m.table.descriptor?_free s i]
      by_cases hi : i = index s
      · rw [if_pos hi, hi, index_eq]
        exact hnone.symm
      · rw [if_neg hi]
    unfold descriptor freeSelector DescriptorTable.lookup
    rw [hsame]

end Memory

end AspiManager
