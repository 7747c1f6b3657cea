/-!
# Blanks

The characters with the Unicode property `White_Space`, and the removal of blanks at the ends of a
text.
-/

namespace AspiManager

namespace Blank

/-- The ranges of the `White_Space` characters. -/
def ranges : List (Nat × Nat) :=
  [(0x9, 0xD), (0x20, 0x20), (0x85, 0x85), (0xA0, 0xA0), (0x1680, 0x1680), (0x2000, 0x200A),
    (0x2028, 0x2029), (0x202F, 0x202F), (0x205F, 0x205F), (0x3000, 0x3000)]

def isBlank (c : Char) : Bool := ranges.any fun (lo, hi) => lo ≤ c.toNat && c.toNat ≤ hi

/-- The text without the blanks in front. -/
def dropFront (cs : List Char) : List Char := cs.dropWhile isBlank

/-- The text without the blanks behind. -/
def dropBack (cs : List Char) : List Char := (cs.reverse.dropWhile isBlank).reverse

/-- The text without the blanks at either end. -/
def trim (cs : List Char) : List Char := dropBack (dropFront cs)

end Blank

end AspiManager
