import AspiManager.Bytes.Basic
import AspiManager.Memory.Descriptor
import AspiManager.Memory.Range

/-!
# The caller's memory

A flat arena of octets and the descriptor table that selectors go through. `read` and `write` clip
at the end of the arena; `slice`, `replace` and `pair` do not and break down if their range is not
inside it (`Fault.outOfRange`).

An arena starts zeroed and may be large, so only its front is stored, up to the last octet that is
not zero. That makes the stored form unique: memories with the same octets are equal.
-/

namespace AspiManager

/-- Why a run breaks down instead of giving an answer. -/
inductive Fault where
  /-- A range reached outside the memory. -/
  | outOfRange
  /-- The device broke down while it was written to. -/
  | device
  /-- Post routines were nested deeper than the run allows. -/
  | nesting
  /-- A sum did not fit into a machine word. -/
  | overflow
  deriving DecidableEq, Repr

/-- The address space of a caller. -/
structure Memory where
  /-- The number of octets of the arena. -/
  size : Nat
  /-- The octets from address 0 on; the ones behind them are zero. -/
  front : Array UInt8
  table : DescriptorTable
  front_le : front.size ≤ size
  trimmed : front.back? ≠ some 0
  deriving DecidableEq, Repr

/-! ## The front of an arena -/

namespace Front

/-- Puts an octet at an address; the addresses up to it are filled with zeros. -/
def store (front : Array UInt8) (a : Nat) (b : UInt8) : Array UInt8 :=
  if a < front.size then front.setIfInBounds a b
  else (front ++ Array.replicate (a - front.size) 0).push b

/-- Puts octets at consecutive addresses from `base` on; none is put at or past `limit`. -/
def overwrite (limit : Nat) (front : Array UInt8) (base : Nat) : Bytes → Array UInt8
  | [] => front
  | b :: rest =>
    overwrite limit (if base < limit then store front base b else front) (base + 1) rest

/-- The number of octets below `n` up to the last one that is not zero. -/
def used (front : Array UInt8) : Nat → Nat
  | 0 => 0
  | n + 1 => if front.getD n 0 = 0 then used front n else n + 1

/-- The front without the zeros at its end. -/
def trim (front : Array UInt8) : Array UInt8 := front.take (used front front.size)

theorem size_store_le {front : Array UInt8} {a limit : Nat} (b : UInt8) (hf : front.size ≤ limit)
    (ha : a < limit) : (store front a b).size ≤ limit := by
  unfold store
  split
  · simpa using hf
  · simp; omega

theorem size_overwrite_le {limit : Nat} {front : Array UInt8} (base : Nat) (bs : Bytes)
    (h : front.size ≤ limit) : (overwrite limit front base bs).size ≤ limit := by
  induction bs generalizing front base with
  | nil => exact h
  | cons b rest ih =>
    refine ih _ ?_
    split
    · exact size_store_le b h ‹_›
    · exact h

theorem used_le (front : Array UInt8) (n : Nat) : used front n ≤ n := by
  induction n with
  | zero => exact Nat.le_refl _
  | succ n ih => simp only [used]; split <;> omega

theorem getD_used_ne {front : Array UInt8} {n k : Nat} (h : used front n = k + 1) :
    front.getD k 0 ≠ 0 := by
  induction n with
  | zero => simp [used] at h
  | succ n ih =>
    simp only [used] at h
    split at h
    · exact ih h
    · cases h; assumption

theorem size_trim (front : Array UInt8) : (trim front).size = used front front.size := by
  simp [trim, used_le]

theorem back?_trim (front : Array UInt8) : (trim front).back? ≠ some 0 := by
  cases hn : used front front.size with
  | zero => simp [trim, hn]
  | succ k =>
    have hk : k < front.size := by have := used_le front front.size; omega
    have h := getD_used_ne hn
    intro h0
    rw [Array.back?_eq_getElem?, size_trim, hn, trim, hn, Array.take_eq_extract,
      Array.getElem?_extract, if_pos (by omega)] at h0
    have h1 : front[k]? = some 0 := by simpa using h0
    rw [Array.getD_eq_getD_getElem?, h1] at h
    exact h rfl

end Front

namespace Memory

/-- `size` zero octets and no descriptors. -/
def zeroed (size : Nat) : Memory := ⟨size, #[], .empty, Nat.zero_le _, by simp⟩

/-- The octet at an address, zero past the end. -/
def octet (m : Memory) (a : Nat) : UInt8 := m.front.getD a 0

/-- Puts octets at consecutive addresses from `base` on, as far as the arena reaches. -/
def put (m : Memory) (base : Nat) (bs : Bytes) : Memory :=
  { m with
    front := Front.trim (Front.overwrite m.size m.front base bs)
    front_le := by
      rw [Front.size_trim]
      exact Nat.le_trans (Front.used_le _ _) (Front.size_overwrite_le _ _ m.front_le)
    trimmed := Front.back?_trim _ }

/-- Copies `data` to `base` as far as the arena reaches; also gives the number of octets copied. -/
def write (m : Memory) (base : Nat) (data : Bytes) : Nat × Memory :=
  (min data.length (m.size - base), m.put base data)

/-- The octets of `base, …, base + len - 1` that the arena has. -/
def read (m : Memory) (base len : Nat) : Bytes :=
  Bytes.fit (min len (m.size - base)) (m.front.extract base (base + len)).toList

/-- The octets of a range. -/
def slice (m : Memory) (r : Range) : Except Fault Bytes :=
  if r.stop ≤ m.size then .ok (m.read r.base r.len) else .error .outOfRange

/-- Puts as many octets as the range has in their place. -/
def replace (m : Memory) (r : Range) (data : Bytes) : Except Fault Memory :=
  if r.stop ≤ m.size ∧ data.length = r.len then .ok (m.put r.base data) else .error .outOfRange

/-- Replaces the range, if there is one. -/
def replaceOption (m : Memory) : Option Range → Option Bytes → Except Fault Memory
  | some r, some data => m.replace r data
  | _, _ => .ok m

/-- Cuts two windows out of the memory at the start of the higher one: the lower one has to end
at or before the cut, the higher one inside the memory. -/
def split (m : Memory) (lo hi : Range) : Except Fault (Bytes × Bytes) :=
  if hi.base ≤ m.size ∧ lo.stop ≤ hi.base ∧ hi.stop ≤ m.size then
    .ok (m.read lo.base lo.len, m.read hi.base hi.len)
  else .error .outOfRange

/-- Two windows at once; `none` if both are there and share an address. -/
def pair (m : Memory) : Option Range → Option Range →
    Except Fault (Option (Option Bytes × Option Bytes))
  | some a, some b =>
    if a.overlaps b then .ok none
    else if b.base < a.base then
      (m.split b a).map fun (lo, hi) => some (some hi, some lo)
    else (m.split a b).map fun (lo, hi) => some (some lo, some hi)
  | some a, none => (m.slice a).map fun bs => some (some bs, none)
  | none, some b => (m.slice b).map fun bs => some (none, some bs)
  | none, none => .ok (some (none, none))

/-- The size of the arena and the number of selectors in use. -/
def summary (m : Memory) : String :=
  "GuestMemory \x7b size: " ++ toString m.size ++ ", selectors: " ++ toString m.table.live ++
    " \x7d"

end Memory

end AspiManager
