/-!
# Ranges of linear memory

A range is a start address and a length. Addresses are exact numbers; nothing wraps.
-/

namespace AspiManager

/-- The addresses `base, …, base + len - 1`. -/
structure Range where
  base : Nat
  len : Nat
  deriving DecidableEq, Repr, Inhabited

namespace Range

/-- The first address past the range. -/
def stop (r : Range) : Nat := r.base + r.len

/-- Address `a` lies in the range. -/
def Contains (r : Range) (a : Nat) : Prop := r.base ≤ a ∧ a < r.stop

instance (r : Range) (a : Nat) : Decidable (r.Contains a) :=
  inferInstanceAs (Decidable (_ ∧ _))

/-- Whether the ranges share an address. An empty range shares none. -/
def overlaps (r s : Range) : Bool :=
  0 < r.len && 0 < s.len && r.base < s.stop && s.base < r.stop

/-- The first `n` addresses of the range, never more than it has. -/
def truncate (r : Range) (n : Nat) : Range := ⟨r.base, min r.len n⟩

end Range

end AspiManager
