import AspiManager.Yaml.Cursor

/-!
# Plain and quoted scalars

A scalar may run over several lines. Between two words a single line end becomes a space, and of
more line ends all but the first are kept; spaces around line ends are dropped.
-/

namespace AspiManager

namespace Yaml

/-- What stands between two words of a scalar. -/
inductive Gap where
  /-- Spaces within a line. -/
  | spaces (cs : List Char)
  /-- Line ends: what the first one stands for, and what the others stand for. -/
  | lines (first more : List Char)
  deriving DecidableEq, Repr

namespace Gap

def none : Gap := spaces []

/-- What a gap adds to the scalar. -/
def text : Gap → List Char
  | spaces cs => cs
  | lines ['\n'] [] => [' ']
  | lines ['\n'] more => more
  | lines first more => first ++ more

def hasLines : Gap → Bool
  | spaces _ => false
  | lines .. => true

/-- The gap with one more line end. -/
def addBreak (b : List Char) : Gap → Gap
  | spaces _ => lines b []
  | lines first more => lines first (more ++ b)

/-- Reads a gap. After a line end no tab may stand before column `indent`. The first number bounds
the characters that are read. -/
def read (indent : Nat) : Nat → Cursor → Gap → Option (Gap × Cursor)
  | 0, c, g => some (g, c)
  | n + 1, c, g =>
    match c.peek 0 with
    | Option.none => some (g, c)
    | some ch =>
      if isSpace ch then
        match g with
        | spaces cs => read indent n (c.skip 1) (spaces (cs ++ [ch]))
        | lines .. =>
          if ch == '\t' && c.column < indent then Option.none else read indent n (c.skip 1) g
      else if isBreak ch then
        let (b, c) := c.takeBreak
        read indent n c (g.addBreak b)
      else some (g, c)

end Gap

/-- A character that has a meaning in flow collections. -/
def isFlowMark (c : Char) : Bool := c == ',' || c == '[' || c == ']' || c == '{' || c == '}'

/-- The characters that a plain scalar takes up to the next gap or the mark that ends it; none if a
colon stands where it may not. -/
def plainWord (inFlow : Bool) : List Char → Option (List Char)
  | [] => some []
  | c :: rest =>
    let next := rest.head?
    if isGap c then some []
    else if inFlow && c == ':' && next.any (fun d => isFlowMark d || d == '?') then none
    else if (c == ':' && endsWord next) || (inFlow && isFlowMark c) then some []
    else (plainWord inFlow rest).map (c :: ·)

/-- A plain scalar that has the words read so far, in reverse: its text, whether a gap with line
ends follows it, and the place after that. Outside of flow collections its lines are indented to
`indent` at least. -/
def plainScalar (inFlow : Bool) (indent : Nat) :
    Nat → Cursor → List Char → Gap → Option (List Char × Bool × Cursor)
  | 0, c, text, g => some (text, g.hasLines, c)
  | n + 1, c, text, g =>
    if c.atDocumentMark || c.peek 0 == some '#' then some (text, g.hasLines, c)
    else do
      let word ← plainWord inFlow c.rest
      let text := if word.isEmpty then text else word.reverse ++ g.text.reverse ++ text
      let g := if word.isEmpty then g else Gap.none
      let c := c.skip word.length
      if !(c.peek 0).any isGap then return (text, g.hasLines, c)
      let (g, c) ← g.read indent c.rest.length c
      if !inFlow && c.column < indent then return (text, g.hasLines, c)
      plainScalar inFlow indent n c text g

/-- The value of a hexadecimal digit. -/
def hexDigit? (c : Char) : Option Nat :=
  if '0' ≤ c ∧ c ≤ '9' then some (c.toNat - 48)
  else if 'a' ≤ c ∧ c ≤ 'f' then some (c.toNat - 87)
  else if 'A' ≤ c ∧ c ≤ 'F' then some (c.toNat - 55)
  else none

/-- The number of `n` hexadecimal digits. -/
def hexNumber? (cs : List Char) (n : Nat) : Option Nat :=
  if cs.length < n then none
  else (cs.take n).foldlM (fun v c => (hexDigit? c).map (16 * v + ·)) 0

/-- The escapes that stand for one character. -/
def escapes : List (Char × Char) :=
  [('0', '\x00'), ('a', '\x07'), ('b', '\x08'), ('t', '\t'), ('\t', '\t'), ('n', '\n'),
    ('v', '\x0b'), ('f', '\x0c'), ('r', '\r'), ('e', '\x1b'), (' ', ' '), ('"', '"'), ('/', '/'),
    ('\\', '\\'), ('N', '\u0085'), ('_', '\u00a0'), ('L', '\u2028'), ('P', '\u2029')]

/-- The escapes that give a code point by its digits, and the number of digits. -/
def codeEscapes : List (Char × Nat) := [('x', 2), ('u', 4), ('U', 8)]

/-- What the escape after a backslash stands for, and its length. -/
def escape? : List Char → Option (Char × Nat)
  | [] => none
  | c :: rest =>
    match escapes.lookup c with
    | some d => some (d, 1)
    | none => do
      let digits ← codeEscapes.lookup c
      let n ← hexNumber? rest digits
      if 0x10FFFF < n || (0xD800 ≤ n && n ≤ 0xDFFF) then none
      else some (Char.ofNat n, 1 + digits)

/-- A word between single quotes, up to a gap or a quote, in reverse. -/
def singleWord : Nat → Cursor → List Char → List Char × Cursor
  | 0, c, text => (text, c)
  | n + 1, c, text =>
    match c.peek 0, c.peek 1 with
    | some '\'', some '\'' => singleWord n (c.skip 2) ('\'' :: text)
    | some ch, _ =>
      if isGap ch || ch == '\'' then (text, c) else singleWord n (c.skip 1) (ch :: text)
    | none, _ => (text, c)

/-- A word between double quotes, up to a gap or a quote, in reverse, and whether an escaped line
end follows it. -/
def doubleWord : Nat → Cursor → List Char → Option (List Char × Bool × Cursor)
  | 0, c, text => some (text, false, c)
  | n + 1, c, text =>
    match c.peek 0 with
    | none => some (text, false, c)
    | some '\\' =>
      if (c.peek 1).any isBreak then some (text, true, (c.skip 1).takeBreak.2)
      else do
        let (ch, length) ← escape? (c.rest.drop 1)
        doubleWord n (c.skip (1 + length)) (ch :: text)
    | some ch =>
      if isGap ch || ch == '"' then some (text, false, c)
      else doubleWord n (c.skip 1) (ch :: text)

/-- The rest of a quoted scalar after the words read so far, in reverse, and the place after the
closing quote. -/
def quotedScalar (quote : Char) : Nat → Cursor → List Char → Option (List Char × Cursor)
  | 0, _, _ => none
  | n + 1, c, text => do
    if c.atDocumentMark || c.rest.isEmpty then none
    let (text, escaped, c) ←
      if quote == '"' then doubleWord c.rest.length c text
      else
        let (text, c) := singleWord c.rest.length c text
        some (text, false, c)
    if c.peek 0 == some quote then return (text, c.skip 1)
    let (g, c) ← (if escaped then Gap.lines [] [] else Gap.none).read 0 c.rest.length c
    quotedScalar quote n c (g.text.reverse ++ text)

end Yaml

end AspiManager
