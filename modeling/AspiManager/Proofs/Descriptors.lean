import AspiManager.Memory.Descriptor

/-!
# The descriptor table as a map

What the operations of a table do to the descriptor at each index.

* `descriptor?_alloc`: an allocation takes an index that was free, and changes no other.
* `descriptor?_free`: freeing a selector clears its index, and changes no other.
* `alloc_eq_none_iff`: only a table in which every index is taken has no room.

All this is said of tables that allocations and frees lead to (`Reachable`), which never grow past
their capacity, so that no selector wraps.
-/

namespace AspiManager

namespace DescriptorTable

variable {t t' : DescriptorTable} {s : UInt16} {i j base len : Nat}

/-- Allocations and frees lead to the table. -/
inductive Reachable : DescriptorTable → Prop
  | empty : Reachable .empty
  | alloc {t t' : DescriptorTable} {base len : Nat} {s : UInt16} (h : Reachable t)
    (ha : t.alloc base len = some (s, t')) : Reachable t'
  | free {t : DescriptorTable} (s : UInt16) (h : Reachable t) : Reachable (t.free s)

/-- Some index that a selector can name is not in use. -/
def HasRoom (t : DescriptorTable) : Prop :=
  ∃ i, 0 < i ∧ i ≤ capacity ∧ t.descriptor? i = none

/-! ## Slots -/

theorem descriptor?_succ (t : DescriptorTable) (i : Nat) :
    t.descriptor? (i + 1) = t.slots[i]?.join := rfl

/-- The slot that is taken next is free, and all slots below it are taken. -/
theorem freeSlot?_eq_some (h : t.freeSlot? = some i) :
    t.descriptor? (i + 1) = none ∧ i ≤ t.slots.size ∧ (t.slots.size ≤ capacity → i < capacity) := by
  unfold freeSlot? at h
  split at h
  · rename_i k hk
    obtain rfl : k = i := Option.some.inj h
    obtain ⟨hlt, hnone, -⟩ := Array.findIdx?_eq_some_iff_getElem.mp hk
    have hslot : t.slots[k]? = some none := by
      rw [Array.getElem?_eq_getElem hlt, Option.isNone_iff_eq_none.mp hnone]
    refine ⟨by rw [descriptor?_succ, hslot]; rfl, Nat.le_of_lt hlt, fun hs => ?_⟩
    exact Nat.lt_of_lt_of_le hlt hs
  · split at h
    · rename_i hlt
      obtain rfl : t.slots.size = i := Option.some.inj h
      have hslot : t.slots[t.slots.size]? = none := Array.getElem?_eq_none (Nat.le_refl _)
      exact ⟨by rw [descriptor?_succ, hslot]; rfl, Nat.le_refl _, fun _ => hlt⟩
    · cases h

/-- All slots below the one that is taken next are in use. -/
theorem ne_none_of_lt_freeSlot? (h : t.freeSlot? = some i) (hj : j < i) :
    t.descriptor? (j + 1) ≠ none := by
  suffices ∃ d, t.slots[j]? = some (some d) by
    obtain ⟨d, hd⟩ := this
    rw [descriptor?_succ, hd]
    exact Option.some_ne_none d
  unfold freeSlot? at h
  split at h
  · rename_i k hk
    obtain rfl : k = i := Option.some.inj h
    obtain ⟨hlt, -, hbelow⟩ := Array.findIdx?_eq_some_iff_getElem.mp hk
    obtain ⟨d, hd⟩ := Option.ne_none_iff_exists'.mp (mt Option.isNone_iff_eq_none.mpr (hbelow j hj))
    exact ⟨d, by rw [Array.getElem?_eq_getElem (Nat.lt_trans hj hlt), hd]⟩
  · rename_i hnone
    split at h
    · obtain rfl : t.slots.size = i := Option.some.inj h
      have htaken := Array.findIdx?_eq_none_iff.mp hnone t.slots[j] (Array.getElem_mem hj)
      obtain ⟨d, hd⟩ := Option.isSome_iff_exists.mp (Option.isNone_eq_false_iff.mp htaken)
      exact ⟨d, by rw [Array.getElem?_eq_getElem hj, hd]⟩
    · cases h

/-- Without a free slot every index is in use. -/
theorem not_hasRoom_of_freeSlot? (h : t.freeSlot? = none) : ¬ t.HasRoom := by
  rintro ⟨k, hpos, hle, hk⟩
  obtain ⟨n, rfl⟩ : ∃ n, k = n + 1 := ⟨k - 1, by omega⟩
  unfold freeSlot? at h
  split at h
  · cases h
  · rename_i hnone
    split at h
    · cases h
    · rename_i hfull
      have hlt : n < t.slots.size := by omega
      have htaken := Array.findIdx?_eq_none_iff.mp hnone t.slots[n] (Array.getElem_mem hlt)
      rw [descriptor?_succ, Array.getElem?_eq_getElem hlt, Option.join_some] at hk
      rw [hk] at htaken
      cases htaken

theorem descriptor?_put (hi : i ≤ t.slots.size) (d : Descriptor) (j : Nat) :
    (t.put i d).descriptor? j = if j = i + 1 then some d else t.descriptor? j := by
  cases j with
  | zero => rfl
  | succ j =>
    unfold put
    rw [descriptor?_succ, descriptor?_succ]
    by_cases hlt : i < t.slots.size
    · rw [if_pos hlt, Array.getElem?_setIfInBounds]
      by_cases hij : i = j
      · subst hij
        simp [hlt]
      · rw [if_neg hij, if_neg (by omega)]
    · rw [if_neg hlt, Array.getElem?_push]
      by_cases hij : j = t.slots.size
      · rw [if_pos hij, if_pos (by omega)]
        rfl
      · rw [if_neg hij, if_neg (by omega)]

theorem size_put_le (hs : t.slots.size ≤ capacity) (hi : i < capacity) (d : Descriptor) :
    (t.put i d).slots.size ≤ capacity := by
  unfold put
  split
  · simpa using hs
  · rename_i hlt
    have hsize : (t.slots.push (some d)).size = t.slots.size + 1 := Array.size_push ..
    rw [hsize]
    omega

/-! ## Selectors -/

/-- A selector names the index that it was made for. -/
theorem index_selector (h : i ≤ capacity) : index (selector i) = i := by
  unfold index selector capacity at *
  rw [UInt16.toNat_ofNat', Nat.mod_eq_of_lt (by omega)]
  omega

/-- A selector has the index above its low three bits, all of which are set. -/
theorem toNat_selector (h : i ≤ capacity) : (selector i).toNat = i <<< 3 ||| 7 := by
  have hbits : i <<< 3 ||| 7 = 8 * i + 7 := by
    rw [← Nat.shiftLeft_add_eq_or_of_lt (by decide), Nat.shiftLeft_eq, Nat.mul_comm]
  unfold selector capacity at *
  rw [hbits, UInt16.toNat_ofNat', Nat.mod_eq_of_lt (by omega)]

/-- Freeing a selector clears its index. -/
theorem descriptor?_free (t : DescriptorTable) (s : UInt16) (j : Nat) :
    (t.free s).descriptor? j = if j = index s then none else t.descriptor? j := by
  unfold free
  cases hs : index s with
  | zero =>
    cases j with
    | zero => rfl
    | succ j => rfl
  | succ i =>
    dsimp only
    cases j with
    | zero => rfl
    | succ j =>
      rw [descriptor?_succ, descriptor?_succ, Array.getElem?_setIfInBounds]
      by_cases hij : i = j
      · subst hij
        by_cases hlt : i < t.slots.size
        · simp [hlt]
        · simp [hlt]
      · rw [if_neg hij, if_neg (by omega)]

/-! ## Reachable tables -/

theorem size_free (t : DescriptorTable) (s : UInt16) : (t.free s).slots.size = t.slots.size := by
  unfold free
  split
  · rfl
  · exact Array.size_setIfInBounds

theorem alloc_eq_some (h : t.alloc base len = some (s, t')) :
    ∃ i, t.freeSlot? = some i ∧ s = selector (i + 1) ∧ t' = t.put i (segment base len) := by
  unfold alloc at h
  obtain ⟨i, hi, he⟩ := Option.map_eq_some_iff.mp h
  cases he
  exact ⟨i, hi, rfl, rfl⟩

/-- A reachable table does not grow past its capacity. -/
theorem Reachable.size_le (h : t.Reachable) : t.slots.size ≤ capacity := by
  induction h with
  | empty => exact Nat.zero_le _
  | alloc h ha ih =>
    obtain ⟨i, hi, -, rfl⟩ := alloc_eq_some ha
    exact size_put_le ih ((freeSlot?_eq_some hi).2.2 ih) _
  | free s h ih => rwa [size_free]

/-- An allocation takes an index that was free. -/
theorem Reachable.descriptor?_alloc (h : t.Reachable) (ha : t.alloc base len = some (s, t')) :
    0 < index s ∧ t.lookup s = none ∧
      ∀ j, t'.descriptor? j = if j = index s then some (segment base len) else t.descriptor? j := by
  obtain ⟨i, hi, rfl, rfl⟩ := alloc_eq_some ha
  obtain ⟨hnone, hle, hlt⟩ := freeSlot?_eq_some hi
  have hindex : index (selector (i + 1)) = i + 1 := index_selector (hlt h.size_le)
  refine ⟨by rw [hindex]; exact Nat.succ_pos i, ?_, fun j => ?_⟩
  · unfold lookup
    rw [hindex, hnone]
  · rw [descriptor?_put hle, hindex]

/-- An allocation fails only in a table in which every index is in use. -/
theorem Reachable.alloc_eq_none_iff (h : t.Reachable) (base len : Nat) :
    t.alloc base len = none ↔ ¬ t.HasRoom := by
  unfold DescriptorTable.alloc
  rw [Option.map_eq_none_iff]
  constructor
  · exact not_hasRoom_of_freeSlot?
  · intro hroom
    cases hi : t.freeSlot? with
    | none => rfl
    | some i =>
      obtain ⟨hnone, -, hlt⟩ := freeSlot?_eq_some hi
      exact absurd ⟨i + 1, Nat.succ_pos i, hlt h.size_le, hnone⟩ hroom

/-- The limit of a segment of at most 64 KiB is its last offset. -/
theorem limit_segment (hpos : 0 < len) (hlen : len ≤ 0x10000) (base : Nat) :
    (segment base len).limit.toNat = len - 1 := by
  unfold segment
  dsimp only
  rw [UInt16.toNat_ofNat', Nat.mod_eq_of_lt (by omega)]
  omega

end DescriptorTable

end AspiManager
