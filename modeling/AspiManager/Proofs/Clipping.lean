import AspiManager.Memory.Machine
import AspiManager.Proofs.Octets

/-!
# Guarded sums

Where the machine looks for the end of a range it guards the sum, and in a memory whose size is a
word the guard is never seen: the range is accepted, written or read as with exact numbers
(`Machine.linear_eq`, `Machine.write_eq`, `Machine.read_eq`). An end that is not a word lies behind
the arena, and so does the greatest word that stands for it.
-/

namespace AspiManager

namespace Memory

variable {m : Memory} {base : Nat}

/-- Octets that all fall outside the arena change nothing. -/
theorem put_of_past {bs : Bytes} (h : min bs.length (m.size - base) = 0) : m.put base bs = m := by
  refine ext_octet (size_put ..) (table_put ..) fun a => ?_
  rw [octet_put, if_neg (by omega)]

/-- Only the octets that fall inside the arena count. -/
theorem put_take (m : Memory) (base : Nat) (bs : Bytes) :
    m.put base (bs.take (min bs.length (m.size - base))) = m.put base bs := by
  refine ext_octet (by simp) (by simp) fun a => ?_
  rw [octet_put, octet_put, List.length_take, Bytes.octet_take]
  by_cases ha : base ≤ a ∧ a < base + bs.length ∧ a < m.size
  · rw [if_pos ha, if_pos (by omega), if_pos (by omega)]
  · rw [if_neg ha, if_neg (by omega)]

/-- A read that is moved down to the end of the arena gives the same octets. -/
theorem read_clipped (m : Memory) (base len : Nat) :
    m.read (min base m.size) (min (base + len) m.size - min base m.size) = m.read base len := by
  refine Bytes.ext_octet (by simp; omega) fun i hi => ?_
  rw [length_read] at hi
  rw [octet_read, octet_read, if_pos (by omega), if_pos (by omega), Nat.min_eq_left (by omega)]

end Memory

namespace Machine

variable {m : Memory} (hs : m.size < wordLimit)

include hs

theorem linear_eq (base len : Nat) (p : FarPtr) : linear m base len p = m.linear base len p := by
  unfold linear Memory.linear add?
  by_cases h : base + len < wordLimit
  · rw [if_pos h]
  · rw [if_neg h, if_neg (by omega)]

/-- The end of what is written or read, as far as the arena reaches. -/
theorem min_addClipped (base len : Nat) :
    min (addClipped base len) m.size = min (base + len) m.size := by
  unfold addClipped
  omega

theorem write_eq (base : Nat) (data : Bytes) : write m base data = .ok (m.write base data) := by
  have hn : min (base + data.length) m.size - base = min data.length (m.size - base) := by omega
  unfold write Memory.write
  dsimp only
  rw [min_addClipped hs, hn]
  by_cases h0 : min data.length (m.size - base) = 0
  · rw [if_pos h0, h0, Memory.put_of_past h0]
  · have hl : (data.take (min data.length (m.size - base))).length =
        min data.length (m.size - base) := by
      rw [List.length_take]
      omega
    have hstop : (Range.mk base (min data.length (m.size - base))).stop ≤ m.size := by
      unfold Range.stop
      dsimp only
      omega
    rw [if_neg h0, if_pos (Nat.min_le_left ..), Memory.replace_ok hstop hl, Memory.put_take]
    rfl

theorem read_eq (base len : Nat) : read m base len = .ok (m.read base len) := by
  have hle : min base m.size ≤ min (base + len) m.size := by omega
  have hstop : (Range.mk (min base m.size) (min (base + len) m.size - min base m.size)).stop ≤
      m.size := by
    unfold Range.stop
    dsimp only
    omega
  unfold read
  dsimp only
  rw [min_addClipped hs, if_pos hle, Memory.slice_ok hstop, Memory.read_clipped]

end Machine

end AspiManager
