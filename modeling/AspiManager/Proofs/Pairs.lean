import AspiManager.Proofs.Delivery

/-!
# Two windows at once

Two ranges of one memory are had at once by cutting the memory at the start of the higher one. That
gives none exactly if they share an address, and otherwise their two slices, with one exception: an
empty range shares no address with a range that it starts in, and the memory is then cut inside
that range (`Range.Swallows`, `pair_iff`). Windows that are apart can be filled one after the other
(`Memory.octet_put_put`).
-/

namespace AspiManager

namespace Range

variable {a b : Range}

theorem overlaps_comm (a b : Range) : a.overlaps b = b.overlaps a := by
  rw [Bool.eq_iff_iff, overlaps_iff, overlaps_iff]
  exact ⟨fun ⟨x, ha, hb⟩ => ⟨x, hb, ha⟩, fun ⟨x, hb, ha⟩ => ⟨x, ha, hb⟩⟩

/-- Of two ranges one is empty and starts in the other, where the memory is cut. At the start of
the other a first range is below the cut, and a second one is not. -/
def Swallows (a b : Range) : Prop :=
  b.len = 0 ∧ a.Contains b.base ∨ a.len = 0 ∧ b.Contains a.base ∧ a.base ≠ b.base

instance (a b : Range) : Decidable (a.Swallows b) := inferInstanceAs (Decidable (_ ∨ _))

/-- The range that starts lower ends at the start of the other. -/
def InOrder (a b : Range) : Prop :=
  if b.base < a.base then b.stop ≤ a.base else a.stop ≤ b.base

instance (a b : Range) : Decidable (a.InOrder b) :=
  inferInstanceAs (Decidable (if b.base < a.base then b.stop ≤ a.base else a.stop ≤ b.base))

/-- Ranges that share no address are in order unless one is swallowed. -/
theorem inOrder_iff (h : ¬ a.Shares b) : a.InOrder b ↔ ¬ a.Swallows b := by
  have hs : 0 < a.len → 0 < b.len → a.stop ≤ b.base ∨ b.stop ≤ a.base :=
    fun ha hb => (Memory.apart_iff ha hb).mp h
  unfold InOrder Swallows Contains
  unfold stop at *
  split
  · omega
  · omega

end Range

namespace Memory

variable {m : Memory} {a b : Range}

/-- Both slices, in the order in which they are asked for, or a breakdown at the cut. -/
theorem pair_eq (ha : a.stop ≤ m.size) (hb : b.stop ≤ m.size) :
    m.pair (some a) (some b) =
      if a.Shares b then .ok none
      else if a.InOrder b then
        .ok (some (some (m.read a.base a.len), some (m.read b.base b.len)))
      else .error .outOfRange := by
  have hcut : ∀ r : Range, r.stop ≤ m.size → r.base ≤ m.size := by
    intro r hr
    unfold Range.stop at hr
    omega
  unfold pair Range.InOrder split
  by_cases hs : a.Shares b
  · simp only [Range.overlaps_iff.mpr hs, hs, ↓reduceIte]
  · simp only [mt Range.overlaps_iff.mp hs, hs, ↓reduceIte, Bool.false_eq_true]
    by_cases hlt : b.base < a.base
    · simp only [hlt, ↓reduceIte, hcut a ha, ha, true_and, and_true]
      split <;> rfl
    · simp only [hlt, ↓reduceIte, hcut b hb, hb, true_and, and_true]
      split <;> rfl

/-- Two windows that are filled one after the other hold what they were filled with, and nothing
else is changed. In an address of both the second would win. -/
theorem octet_put_put (ha : a.stop ≤ m.size) (hb : b.stop ≤ m.size) {xs ys : Bytes}
    (hx : xs.length = a.len) (hy : ys.length = b.len) (i : Nat) :
    ((m.put a.base xs).put b.base ys).octet i =
      if b.Contains i then ys.octet (i - b.base)
      else if a.Contains i then xs.octet (i - a.base)
      else m.octet i := by
  have hiff : ∀ r : Range, r.stop ≤ m.size →
      (r.base ≤ i ∧ i < r.base + r.len ∧ i < m.size ↔ r.Contains i) := by
    intro r hr
    unfold Range.Contains Range.stop at *
    omega
  simp only [octet_put, size_put, hx, hy, hiff a ha, hiff b hb]

/-- Two ranges inside a memory: whether they overlap does not depend on their order, and says
whether they share an address. Then, and only then, they are not had at once. Otherwise both slices
are had, exactly unless one range swallows the other, and filling the first and then the second
changes their octets and no others. -/
theorem pair_iff (ha : a.stop ≤ m.size) (hb : b.stop ≤ m.size) :
    a.overlaps b = b.overlaps a ∧
      (a.overlaps b = true ↔ ∃ x, a.Contains x ∧ b.Contains x) ∧
      (m.pair (some a) (some b) = .ok none ↔ a.overlaps b = true) ∧
      ∃ xs ys, m.slice a = .ok xs ∧ m.slice b = .ok ys ∧
        (a.overlaps b = false →
          (m.pair (some a) (some b) = .ok (some (some xs, some ys)) ↔ ¬ a.Swallows b) ∧
          (m.pair (some a) (some b) = .error .outOfRange ↔ a.Swallows b) ∧
          ∀ xs' ys', xs'.length = xs.length → ys'.length = ys.length →
            ∃ n n', m.replace a xs' = .ok n ∧ n.replace b ys' = .ok n' ∧
              n'.size = m.size ∧ n'.table = m.table ∧
              (∀ i < a.len, n'.octet (a.base + i) = xs'.octet i) ∧
              (∀ i < b.len, n'.octet (b.base + i) = ys'.octet i) ∧
              ∀ x, ¬ a.Contains x → ¬ b.Contains x → n'.octet x = m.octet x) := by
  have hpair := pair_eq ha hb
  refine ⟨Range.overlaps_comm a b, Range.overlaps_iff, ?_, _, _, slice_ok ha, slice_ok hb, ?_⟩
  · rw [hpair, Range.overlaps_iff]
    by_cases hs : a.Shares b
    · simp [hs]
    · by_cases ho : a.InOrder b <;> simp [hs, ho]
  intro hno
  have hs : ¬ a.Shares b := fun h => by
    rw [Range.overlaps_iff.mpr h] at hno
    cases hno
  have horder := Range.inOrder_iff hs
  rw [if_neg hs] at hpair
  refine ⟨?_, ?_, fun xs' ys' hx hy => ?_⟩
  · rw [hpair, ← horder]
    by_cases ho : a.InOrder b <;> simp [ho]
  · rw [hpair]
    by_cases ho : a.InOrder b
    · simp [ho, horder.mp ho]
    · simp [ho, Decidable.of_not_not (mt horder.mpr ho)]
  · rw [length_read_of_le ha] at hx
    rw [length_read_of_le hb] at hy
    have hoctet := octet_put_put ha hb hx hy
    refine ⟨_, _, replace_ok ha hx, replace_ok (by rwa [size_put]) hy, rfl, rfl, ?_, ?_, ?_⟩
    · intro i hi
      have hia : a.Contains (a.base + i) := by
        unfold Range.Contains Range.stop
        omega
      rw [hoctet, if_neg fun hib => hs ⟨_, hia, hib⟩, if_pos hia, Nat.add_sub_cancel_left]
    · intro i hi
      have hib : b.Contains (b.base + i) := by
        unfold Range.Contains Range.stop
        omega
      rw [hoctet, if_pos hib, Nat.add_sub_cancel_left]
    · intro x hxa hxb
      rw [hoctet, if_neg hxb, if_neg hxa]

/-- A window in front of another one, asked for second. -/
theorem windows_in_front_paired :
    let m := Memory.zeroed 256
    let a : Range := ⟨128, 16⟩
    let b : Range := ⟨16, 8⟩
    a.stop ≤ m.size ∧ b.stop ≤ m.size ∧ a.overlaps b = false ∧ ¬ a.Swallows b ∧
      m.pair (some a) (some b) = .ok (some (some (Bytes.zeros 16), some (Bytes.zeros 8))) := by
  intro m a b
  have ha : a.stop ≤ m.size := by decide +kernel
  have hb : b.stop ≤ m.size := by decide +kernel
  have hno : a.overlaps b = false := by decide
  have hsw : ¬ a.Swallows b := by decide
  have hxa : m.read 128 16 = Bytes.zeros 16 := by decide +kernel
  have hxb : m.read 16 8 = Bytes.zeros 8 := by decide +kernel
  obtain ⟨-, -, -, xs, ys, hxs, hys, h⟩ := pair_iff ha hb
  obtain rfl := Except.ok.inj ((slice_ok ha).symm.trans hxs)
  obtain rfl := Except.ok.inj ((slice_ok hb).symm.trans hys)
  have hp := (h hno).1.mpr hsw
  rw [hxa, hxb] at hp
  exact ⟨ha, hb, hno, hsw, hp⟩

/-- An empty range in the middle of another one shares no address with it, and the two break
down. -/
theorem empty_window_swallowed :
    let m := Memory.zeroed 16
    let a : Range := ⟨0, 10⟩
    let b : Range := ⟨5, 0⟩
    a.stop ≤ m.size ∧ b.stop ≤ m.size ∧ a.overlaps b = false ∧
      (¬ ∃ x, a.Contains x ∧ b.Contains x) ∧
      m.pair (some a) (some b) = .error .outOfRange := by
  refine ⟨by decide, by decide, by decide, ?_, rfl⟩
  rintro ⟨x, -, hx, hx'⟩
  simp only [Range.stop] at hx hx'
  omega

end Memory

end AspiManager
