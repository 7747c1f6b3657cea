import AspiManager.Memory.Address

/-!
# Addresses in machine words

A memory is read, written and resolved with exact numbers. The machine has words of 64 bits, and
here are the same operations sum by sum as the machine forms them. A sum that does not fit into a
word breaks a checked build down, and a release build goes on with its low 64 bits. Where the end of
a range is asked for it is guarded instead: there is no range (`add?`), or its end is the greatest
word (`addClipped`), and a cut whose ends are in the wrong order breaks down like one that reaches
outside the memory.
-/

namespace AspiManager

namespace Machine

/-- What becomes of a sum that does not fit into a word. -/
inductive Build where
  /-- It breaks the run down. -/
  | checked
  /-- It loses the bits above the word. -/
  | release
  deriving DecidableEq, Repr

/-- The first number that is not a word. -/
def wordLimit : Nat := 0x10000000000000000

/-- The sum of two words. -/
def add (b : Build) (x y : Nat) : Except Fault Nat :=
  if x + y < wordLimit then .ok (x + y)
  else match b with
    | .checked => .error .overflow
    | .release => .ok ((x + y) % wordLimit)

/-- The bits of a word moved up by `n`. Bits above the word are lost in every build. -/
def shiftLeft (x n : Nat) : Nat := (x <<< n) % wordLimit

/-- The sum of two words, if it is a word. -/
def add? (x y : Nat) : Option Nat := if x + y < wordLimit then some (x + y) else none

/-- The sum of two words, at most the greatest word. -/
def addClipped (x y : Nat) : Nat := min (x + y) (wordLimit - 1)

/-- The range of `len` octets at `base`, if its end is a word and the memory reaches that far. -/
def linear (m : Memory) (base len : Nat) (ptr : FarPtr) : Except AddressError Range :=
  match add? base len with
  | some stop => if stop ≤ m.size then .ok ⟨base, len⟩ else .error (.outOfBounds ptr len)
  | none => .error (.outOfBounds ptr len)

/-- The range of `len` octets at `ptr`. -/
def resolve (b : Build) (m : Memory) (mode : AddressingMode) (ptr : FarPtr) (len : Nat) :
    Except Fault (Except AddressError Range) :=
  match mode with
  | .realMode =>
    if ptr.isNull then .ok (.error .nullPointer)
    else do
      let base ← add b (shiftLeft ptr.segment.toNat 4) ptr.offset.toNat
      return linear m base len ptr
  | .protectedMode =>
    if DescriptorTable.index ptr.segment = 0 then .ok (.error .nullPointer)
    else match m.table.lookup ptr.segment with
      | none => .ok (.error (.invalidSelector ptr.segment))
      | some d => do
        let stop ← add b ptr.offset.toNat len
        if 0 < len ∧ d.limit.toNat < stop - 1 then return .error (.outOfBounds ptr len)
        else
          let base ← add b d.base ptr.offset.toNat
          return linear m base len ptr

/-- Copies `data` to `base` as far as the arena reaches; also gives the number of octets copied. -/
def write (m : Memory) (base : Nat) (data : Bytes) : Except Fault (Nat × Memory) :=
  let stop := min (addClipped base data.length) m.size
  let n := stop - base
  if n = 0 then .ok (0, m)
  else if n ≤ data.length then do
    return (n, ← m.replace ⟨base, n⟩ (data.take n))
  else .error .outOfRange

/-- The octets between `base` and `base + len`, both moved down to the end of the arena. -/
def read (m : Memory) (base len : Nat) : Except Fault Bytes :=
  let start := min base m.size
  let stop := min (addClipped base len) m.size
  if start ≤ stop then m.slice ⟨start, stop - start⟩ else .error .outOfRange

end Machine

end AspiManager
