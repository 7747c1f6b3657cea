import AspiManager.Yaml.Cursor

/-!
# Block scalars

Literal scalars keep their line ends; folded ones join lines that are not indented further. A header
says how line ends at the end are treated and how far the scalar is indented; without a number the
first line that is not empty says so.
-/

namespace AspiManager

namespace Yaml

/-- What becomes of the line ends at the end of a scalar. -/
inductive Chomping where
  /-- None is kept. -/
  | strip
  /-- One is kept. -/
  | clip
  /-- All are kept. -/
  | keep
  deriving DecidableEq, Repr

/-- A sign of chomping. -/
def chomping? : Option Char → Option Chomping
  | some '+' => some .keep
  | some '-' => some .strip
  | _ => none

/-- An indentation of one digit; zero is none. -/
def indentDigit? : Option Char → Option (Option Nat)
  | some '0' => none
  | some c => if c.isDigit then some (some (c.toNat - 48)) else some none
  | none => some none

/-- The header after the mark of a block scalar: chomping, indentation, and the rest. -/
def blockHeader? (c : Cursor) : Option (Chomping × Option Nat × Cursor) :=
  match chomping? (c.peek 0) with
  | some chomping => do
    let indent ← indentDigit? (c.peek 1)
    return (chomping, indent, c.skip (if indent.isSome then 2 else 1))
  | none => do
    let indent ← indentDigit? (c.peek 0)
    if indent.isNone then return (.clip, none, c)
    match chomping? (c.peek 1) with
    | some chomping => return (chomping, indent, c.skip 2)
    | none => return (.clip, indent, c.skip 1)

/-- Reads empty lines and the indentation of the next line: what the line ends stand for, the
widest indentation met, and the place. Without a given indentation all spaces belong to it. A tab
may not stand in the indentation. -/
def blockBreaks (indent : Option Nat) :
    Nat → Cursor → List Char → Nat → Option (List Char × Nat × Cursor)
  | 0, c, breaks, widest => some (breaks, widest, c)
  | n + 1, c, breaks, widest =>
    let spaces := (c.rest.takeWhile (· == ' ')).length
    let c := c.skip (match indent with
      | some i => min spaces (i - c.column)
      | none => spaces)
    let widest := max widest c.column
    let inIndent := match indent with
      | some i => decide (c.column < i)
      | none => true
    if inIndent && c.peek 0 == some '\t' then none
    else if (c.peek 0).any isBreak then
      let (b, c) := c.takeBreak
      blockBreaks indent n c (breaks ++ b) widest
    else some (breaks, widest, c)

/-- What stands between two lines: the end of the first, and empty lines. Lines are joined in a
folded scalar if neither begins with a space. -/
def betweenLines (folded : Bool) (lineEnd breaks : List Char) (spaced : Bool) : List Char :=
  if folded && lineEnd == ['\n'] && !spaced then
    if breaks.isEmpty then [' '] else breaks
  else lineEnd ++ breaks

/-- Reads the lines of a scalar, the text in reverse; at the end also what the last line end and
the empty lines after it stand for. -/
def blockLines (folded : Bool) (indent : Nat) : Nat → Cursor → (text lineEnd breaks : List Char) →
    (spaced : Bool) → Option (List Char × List Char × List Char × Cursor)
  | 0, c, text, lineEnd, breaks, _ => some (text, lineEnd, breaks, c)
  | n + 1, c, text, lineEnd, breaks, spaced =>
    if c.column != indent || c.rest.isEmpty then some (text, lineEnd, breaks, c)
    else do
      let startsSpaced := (c.peek 0).any isSpace
      let between := betweenLines folded lineEnd breaks (spaced || startsSpaced)
      let line := c.rest.takeWhile fun ch => !isBreak ch
      let (lineEnd, c) := (c.skip line.length).takeBreak
      let (breaks, _, c) ← blockBreaks (some indent) (c.rest.length + 1) c [] 0
      blockLines folded indent n c (line.reverse ++ between.reverse ++ text) lineEnd breaks
        startsSpaced

/-- The text of a block scalar whose mark is behind, and the place after it. The lines around are
indented to less than `room`. -/
def blockScalar? (folded : Bool) (room : Nat) (c : Cursor) : Option (List Char × Cursor) := do
  let (chomping, given, c) ← blockHeader? c
  let c ← c.restOfLine?
  let c := c.takeBreak.2
  let given := given.map fun n => (room - 1) + n
  let (breaks, widest, c) ← blockBreaks given (c.rest.length + 1) c [] 0
  let indent := given.getD (max (max widest room) 1)
  let (text, lineEnd, breaks, c) ←
    blockLines folded indent (c.rest.length + 1) c [] [] breaks false
  let tail := match chomping with
    | .strip => []
    | .clip => lineEnd
    | .keep => lineEnd ++ breaks
  return (text.reverse ++ tail, c)

end Yaml

end AspiManager
