import AspiManager.Memory.Address
import AspiManager.Proofs.Octets
import Mathlib.Algebra.Group.Nat.Defs

/-!
# What a pointer names

When `Memory.resolve` gives a range, and which.

* `Memory.resolve_real_iff`, `Memory.resolve_protected_iff`: the two modes, spelled out.
* `Memory.resolve_stop_le`, `Memory.resolve_narrow`: a range lies inside the memory, and a shorter
  length at the same pointer names its front.
* `Memory.resolve_advance`: a pointer that is advanced without a wrap names the rest of the range;
  `Memory.resolve_advance_wrap`: one that wraps names a range 64 KiB lower, if any.
* `Memory.resolve_congr`: only the size and the table of the memory count.
-/

namespace AspiManager

namespace Range

/-- Some address lies in both ranges. -/
def Shares (r s : Range) : Prop := ∃ a, r.Contains a ∧ s.Contains a

theorem overlaps_iff {r s : Range} : r.overlaps s = true ↔ r.Shares s := by
  simp only [overlaps, Shares, Contains, Bool.and_eq_true, decide_eq_true_eq]
  unfold stop
  constructor
  · rintro ⟨⟨⟨hr, hs⟩, hrs⟩, hsr⟩
    exact ⟨max r.base s.base, by omega, by omega⟩
  · rintro ⟨a, ha, ha'⟩
    omega

instance (r s : Range) : Decidable (r.Shares s) := decidable_of_iff _ overlaps_iff

end Range

namespace FarPtr

@[simp] theorem segment_advance (p : FarPtr) (d : UInt16) : (p.advance d).segment = p.segment := rfl

theorem offset_advance (p : FarPtr) (d : UInt16) :
    (p.advance d).offset.toNat = (p.offset.toNat + d.toNat) % 2 ^ 16 :=
  UInt16.toNat_add p.offset d

/-- A real-mode pointer that is not null does not mean address 0. -/
theorem pos_of_not_null {p : FarPtr} (h : p.isNull = false) :
    0 < 16 * p.segment.toNat + p.offset.toNat := by
  refine Nat.pos_of_ne_zero fun h0 => ?_
  have hs : p.segment = 0 := UInt16.toNat_inj.mp (by simp; omega)
  have ho : p.offset = 0 := UInt16.toNat_inj.mp (by simp; omega)
  have hn : p.isNull = true := by simp [isNull, hs, ho]
  rw [h] at hn
  cases hn

end FarPtr

namespace Memory

variable {m n : Memory} {mode : AddressingMode} {p : FarPtr} {len : Nat} {r : Range}

theorem linear_ok_iff {base : Nat} :
    m.linear base len p = .ok r ↔ base + len ≤ m.size ∧ r = ⟨base, len⟩ := by
  unfold linear
  split
  · rename_i h
    simp [h, eq_comm]
  · rename_i h
    simp [h]

theorem resolve_real_iff :
    m.resolve .realMode p len = .ok r ↔
      p.isNull = false ∧ 16 * p.segment.toNat + p.offset.toNat + len ≤ m.size ∧
        r = ⟨16 * p.segment.toNat + p.offset.toNat, len⟩ := by
  unfold resolve
  cases hp : p.isNull with
  | true => simp
  | false => simp [linear_ok_iff]

theorem resolve_protected_iff :
    m.resolve .protectedMode p len = .ok r ↔
      DescriptorTable.index p.segment ≠ 0 ∧ ∃ d, m.table.lookup p.segment = some d ∧
        (0 < len → p.offset.toNat + len - 1 ≤ d.limit.toNat) ∧
        d.base + p.offset.toNat + len ≤ m.size ∧ r = ⟨d.base + p.offset.toNat, len⟩ := by
  unfold resolve
  by_cases hi : DescriptorTable.index p.segment = 0
  · simp [hi]
  · cases hd : m.table.lookup p.segment with
    | none => simp [hi]
    | some d =>
      by_cases hl : 0 < len ∧ d.limit.toNat < p.offset.toNat + len - 1
      · simp only [hi, hl, ↓reduceIte, reduceCtorEq, ne_eq, not_false_eq_true, true_and,
          Option.some.injEq, exists_eq_left', false_iff]
        rintro ⟨h, -⟩
        exact absurd (h trivial) (Nat.not_le.mpr hl.2)
      · have hl' : 0 < len → p.offset.toNat + len - 1 ≤ d.limit.toNat := by omega
        simp only [hi, hl, linear_ok_iff, ↓reduceIte, ne_eq, not_false_eq_true, true_and,
          Option.some.injEq, exists_eq_left']
        exact ⟨fun h => ⟨hl', h⟩, fun h => h.2⟩

theorem resolve_len (h : m.resolve mode p len = .ok r) : r.len = len := by
  cases mode with
  | realMode =>
    obtain ⟨-, -, rfl⟩ := resolve_real_iff.mp h
    rfl
  | protectedMode =>
    obtain ⟨-, d, -, -, -, rfl⟩ := resolve_protected_iff.mp h
    rfl

theorem resolve_stop_le (h : m.resolve mode p len = .ok r) : r.stop ≤ m.size := by
  cases mode with
  | realMode =>
    obtain ⟨-, hs, rfl⟩ := resolve_real_iff.mp h
    exact hs
  | protectedMode =>
    obtain ⟨-, d, -, -, hs, rfl⟩ := resolve_protected_iff.mp h
    exact hs

/-- A shorter length at the same pointer names the front of the range. -/
theorem resolve_narrow (h : m.resolve mode p len = .ok r) {len' : Nat} (hl : len' ≤ len) :
    m.resolve mode p len' = .ok ⟨r.base, len'⟩ := by
  cases mode with
  | realMode =>
    obtain ⟨hp, hs, rfl⟩ := resolve_real_iff.mp h
    exact resolve_real_iff.mpr ⟨hp, by omega, rfl⟩
  | protectedMode =>
    obtain ⟨hi, d, hd, hlim, hs, rfl⟩ := resolve_protected_iff.mp h
    exact resolve_protected_iff.mpr ⟨hi, d, hd, by omega, by omega, rfl⟩

/-- A pointer that is advanced without a wrap names the rest of the range. -/
theorem resolve_advance (h : m.resolve mode p len = .ok r) {d : UInt16} {len' : Nat}
    (hd : p.offset.toNat + d.toNat < 2 ^ 16) (hl : d.toNat + len' ≤ len)
    (hn : 0 < d.toNat) :
    m.resolve mode (p.advance d) len' = .ok ⟨r.base + d.toNat, len'⟩ := by
  have ho : (p.advance d).offset.toNat = p.offset.toNat + d.toNat := by
    rw [FarPtr.offset_advance, Nat.mod_eq_of_lt hd]
  cases mode with
  | realMode =>
    obtain ⟨hp, hs, rfl⟩ := resolve_real_iff.mp h
    have hnull : (p.advance d).isNull = false := by
      rw [Bool.eq_false_iff, ne_eq, FarPtr.isNull_iff]
      intro h0
      have := congrArg (fun q : FarPtr => q.offset.toNat) h0
      simp only [ho, FarPtr.null] at this
      simp at this
      omega
    refine resolve_real_iff.mpr ⟨hnull, ?_, ?_⟩
    · rw [FarPtr.segment_advance, ho]; omega
    · rw [FarPtr.segment_advance, ho, Nat.add_assoc]
  | protectedMode =>
    obtain ⟨hi, e, he, hlim, hs, rfl⟩ := resolve_protected_iff.mp h
    refine resolve_protected_iff.mpr ⟨hi, e, he, ?_, ?_, ?_⟩
    · rw [ho]; omega
    · rw [ho]; omega
    · rw [ho, Nat.add_assoc]

/-- In protected mode no offset inside a range wraps. -/
theorem offset_lt_of_resolve_protected (h : m.resolve .protectedMode p len = .ok r) {d : Nat}
    (hd : d < len) : p.offset.toNat + d < 2 ^ 16 := by
  obtain ⟨-, e, -, hlim, -, -⟩ := resolve_protected_iff.mp h
  have := e.limit.toNat_lt
  omega

/-- A pointer that wraps names a range 64 KiB lower than the rest of the range, if it names one. -/
theorem resolve_advance_wrap (h : m.resolve .realMode p len = .ok r) {d : UInt16} {len' : Nat}
    (hd : 2 ^ 16 ≤ p.offset.toNat + d.toNat) {q : Range}
    (hq : m.resolve .realMode (p.advance d) len' = .ok q) :
    q.base + 2 ^ 16 = r.base + d.toNat := by
  have := p.offset.toNat_lt
  have := d.toNat_lt
  obtain ⟨-, -, rfl⟩ := resolve_real_iff.mp h
  obtain ⟨-, -, rfl⟩ := resolve_real_iff.mp hq
  simp only [FarPtr.segment_advance, FarPtr.offset_advance]
  omega

/-- Only the size and the table of the memory count. -/
theorem resolve_congr (hs : m.size = n.size) (ht : m.table = n.table) (mode : AddressingMode)
    (p : FarPtr) (len : Nat) : m.resolve mode p len = n.resolve mode p len := by
  unfold resolve linear
  rw [hs, ht]

end Memory

end AspiManager
