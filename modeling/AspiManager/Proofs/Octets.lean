import AspiManager.Memory.Arena

/-!
# Memory by octets

A memory is known by its size, its table and the octet at each address (`Memory.ext_octet`). What
an operation does is stated by what it does to the octets:

* `Memory.octet_put`: `put` changes the addresses it is given octets for, as far as the arena
  reaches, and no others.
* `Memory.octet_read`: `read` gives the octets of its addresses.
* `Memory.slice_ok`, `Memory.replace_ok`: inside the memory, `slice` and `replace` do not break
  down and are `read` and `put`.
-/

namespace AspiManager

/-! ## Octet strings -/

namespace Bytes

theorem octet_eq_getElem {bs : Bytes} {i : Nat} (h : i < bs.length) : bs.octet i = bs[i] := by
  simp [octet, h]

theorem octet_of_length_le {bs : Bytes} {i : Nat} (h : bs.length ≤ i) : bs.octet i = 0 := by
  simp [octet, h]

theorem octet_take (bs : Bytes) (n i : Nat) :
    octet (bs.take n) i = if i < n then bs.octet i else 0 := by
  by_cases hi : i < n
  · simp [octet, hi]
  · rw [octet, List.getD_eq_getElem?_getD, List.getElem?_take, if_neg hi, if_neg hi]
    rfl

theorem octet_drop (bs : Bytes) (n i : Nat) : octet (bs.drop n) i = bs.octet (n + i) := by
  simp [octet]

theorem octet_append (bs cs : Bytes) (i : Nat) :
    octet (bs ++ cs) i = if i < bs.length then bs.octet i else octet cs (i - bs.length) := by
  by_cases hi : i < bs.length <;> simp [octet, List.getElem?_append, hi]

theorem octet_set (bs : Bytes) (n i : Nat) (b : UInt8) :
    octet (bs.set n b) i = if n = i ∧ i < bs.length then b else bs.octet i := by
  by_cases hn : n = i
  · by_cases hi : i < bs.length
    · subst hn; simp [octet, hi]
    · simp [octet, hi]
  · simp [octet, hn]

@[simp] theorem octet_zeros (n i : Nat) : octet (zeros n) i = 0 := by
  rcases Nat.lt_or_ge i n with h | h <;> simp [octet, zeros, h]

theorem octet_fit (n : Nat) (bs : Bytes) (i : Nat) :
    octet (fit n bs) i = if i < n then bs.octet i else 0 := by
  rw [fit, octet_append, octet_take, octet_zeros, List.length_take]
  split
  · simp [show i < n by omega]
  · split
    · rw [octet_of_length_le (by omega)]
    · rfl

/-- Strings of one length with the same octets are equal. -/
theorem ext_octet {bs cs : Bytes} (hl : bs.length = cs.length)
    (h : ∀ i < bs.length, bs.octet i = cs.octet i) : bs = cs := by
  refine List.ext_getElem hl fun i hi hi' => ?_
  rw [← octet_eq_getElem hi, ← octet_eq_getElem hi', h i hi]

end Bytes

/-! ## The front of an arena -/

namespace Front

theorem getD_store (front : Array UInt8) (a : Nat) (b : UInt8) (i : Nat) :
    (store front a b).getD i 0 = if i = a then b else front.getD i 0 := by
  simp only [store, Array.getD_eq_getD_getElem?]
  split
  · rename_i ha
    by_cases hi : i = a
    · subst hi; simp [ha]
    · simp [hi, Array.getElem?_setIfInBounds_ne (Ne.symm hi)]
  · rename_i ha
    have hs : (front ++ Array.replicate (a - front.size) 0).size = a := by simp; omega
    rw [Array.getElem?_push, hs]
    split
    · simp
    · rw [Array.getElem?_append]
      split
      · rfl
      · rename_i hf
        have hn : front[i]? = none := Array.getElem?_eq_none (by omega)
        rw [hn, Array.getElem?_replicate]
        split <;> rfl

theorem getD_overwrite (limit : Nat) (front : Array UInt8) (base : Nat) (bs : Bytes) (i : Nat) :
    (overwrite limit front base bs).getD i 0 =
      if base ≤ i ∧ i < base + bs.length ∧ i < limit then bs.octet (i - base)
      else front.getD i 0 := by
  induction bs generalizing front base with
  | nil => simp [overwrite]; omega
  | cons b rest ih =>
    -- The first octet is stored before the others, which lie behind it and keep it.
    have hb : (if base < limit then store front base b else front).getD i 0 =
        if i = base ∧ i < limit then b else front.getD i 0 := by
      split
      · rw [getD_store]; split <;> simp_all
      · rw [if_neg (by omega)]
    simp only [overwrite, ih, hb, List.length_cons]
    by_cases hi : i = base
    · subst hi
      rw [if_neg (by omega)]
      by_cases hl : i < limit <;> simp [hl, Bytes.octet]
    · by_cases hr : base + 1 ≤ i ∧ i < base + 1 + rest.length ∧ i < limit
      · rw [if_pos hr, if_pos (by omega), show i - base = i - (base + 1) + 1 by omega]
        simp [Bytes.octet]
      · rw [if_neg hr, if_neg (by omega), if_neg (by omega)]

theorem getD_of_used_le {front : Array UInt8} {n i : Nat} (h : used front n ≤ i) (hi : i < n) :
    front.getD i 0 = 0 := by
  induction n with
  | zero => omega
  | succ n ih =>
    simp only [used] at h
    split at h
    · rcases Nat.lt_or_eq_of_le (Nat.lt_succ_iff.mp hi) with hlt | rfl
      · exact ih h hlt
      · assumption
    · omega

theorem getD_trim (front : Array UInt8) (i : Nat) : (trim front).getD i 0 = front.getD i 0 := by
  have hle := used_le front front.size
  simp only [trim, Array.getD_eq_getD_getElem?, Array.take_eq_extract, Array.getElem?_extract]
  split
  · simp
  · rename_i hi
    rcases Nat.lt_or_ge i front.size with hs | hs
    · have hz : front.getD i 0 = 0 := getD_of_used_le (n := front.size) (by omega) hs
      simpa [Array.getD_eq_getD_getElem?] using hz.symm
    · simp [Array.getElem?_eq_none hs]

/-- A trimmed front holds no more octets than a front with the same ones needs. -/
theorem size_le_of_getD {f g : Array UInt8} (hf : f.back? ≠ some 0)
    (h : ∀ i, f.getD i 0 = g.getD i 0) : f.size ≤ g.size := by
  rcases Nat.lt_or_ge g.size f.size with hlt | hle
  · refine absurd ?_ hf
    have hl := h (f.size - 1)
    simp only [Array.getD_eq_getD_getElem?] at hl
    have hn : g[f.size - 1]? = none := Array.getElem?_eq_none (by omega)
    have hs : f[f.size - 1]? = some f[f.size - 1] := Array.getElem?_eq_getElem (by omega)
    rw [hn, hs] at hl
    rw [Array.back?_eq_getElem?, hs]
    exact congrArg some hl
  · exact hle

theorem ext_getD {f g : Array UInt8} (hf : f.back? ≠ some 0) (hg : g.back? ≠ some 0)
    (h : ∀ i, f.getD i 0 = g.getD i 0) : f = g := by
  have hs : f.size = g.size :=
    Nat.le_antisymm (size_le_of_getD hf h) (size_le_of_getD hg fun i => (h i).symm)
  refine Array.ext hs fun i hi hi' => ?_
  simpa [Array.getD_eq_getD_getElem?, hi, hi'] using h i

end Front

/-! ## Memories -/

namespace Memory

theorem ext_octet {m n : Memory} (hs : m.size = n.size) (ht : m.table = n.table)
    (h : ∀ a, m.octet a = n.octet a) : m = n := by
  have hf := Front.ext_getD m.trimmed n.trimmed h
  cases m; cases n
  simp only [mk.injEq] at hs ht hf ⊢
  exact ⟨hs, hf, ht⟩

theorem octet_of_size_le {m : Memory} {a : Nat} (h : m.size ≤ a) : m.octet a = 0 := by
  have := m.front_le
  simp [octet, Array.getD_eq_getD_getElem?, show m.front.size ≤ a by omega]

@[simp] theorem size_put (m : Memory) (base : Nat) (bs : Bytes) : (m.put base bs).size = m.size :=
  rfl

@[simp] theorem table_put (m : Memory) (base : Nat) (bs : Bytes) :
    (m.put base bs).table = m.table := rfl

theorem octet_put (m : Memory) (base : Nat) (bs : Bytes) (a : Nat) :
    (m.put base bs).octet a =
      if base ≤ a ∧ a < base + bs.length ∧ a < m.size then bs.octet (a - base)
      else m.octet a := by
  simp only [octet, put, Front.getD_trim, Front.getD_overwrite]

@[simp] theorem length_read (m : Memory) (base len : Nat) :
    (m.read base len).length = min len (m.size - base) := by
  simp [read]

theorem octet_read (m : Memory) (base len i : Nat) :
    (m.read base len).octet i = if i < len then m.octet (base + i) else 0 := by
  have hf := m.front_le
  rw [read, Bytes.octet_fit]
  by_cases hi : i < len
  · by_cases hs : i < m.size - base
    · rw [if_pos (by omega), if_pos hi, octet, Array.getD_eq_getD_getElem?, Bytes.octet,
        List.getD_eq_getElem?_getD, Array.getElem?_toList, Array.getElem?_extract]
      split
      · rfl
      · rw [Array.getElem?_eq_none (by omega)]
    · rw [if_neg (by omega), if_pos hi, octet_of_size_le (by omega)]
  · rw [if_neg (by omega), if_neg hi]

/-- Memories of one size that agree on the addresses of a read give the same octets. -/
theorem read_congr {m n : Memory} {base len : Nat} (hs : m.size = n.size)
    (h : ∀ a, base ≤ a → a < base + len → m.octet a = n.octet a) :
    m.read base len = n.read base len := by
  refine Bytes.ext_octet (by simp [hs]) fun i hi => ?_
  rw [length_read] at hi
  rw [octet_read, octet_read, h _ (by omega) (by omega)]

theorem slice_ok {m : Memory} {r : Range} (h : r.stop ≤ m.size) :
    m.slice r = .ok (m.read r.base r.len) := by
  simp [slice, h]

theorem replace_ok {m : Memory} {r : Range} {bs : Bytes} (h : r.stop ≤ m.size)
    (hl : bs.length = r.len) : m.replace r bs = .ok (m.put r.base bs) := by
  simp [replace, h, hl]

theorem length_read_of_le {m : Memory} {r : Range} (h : r.stop ≤ m.size) :
    (m.read r.base r.len).length = r.len := by
  have : r.base + r.len ≤ m.size := h
  rw [length_read]; omega

end Memory

end AspiManager
