import AspiManager.Yaml.BlockScalar
import AspiManager.Yaml.Property

/-!
# From a text to its tokens

The lexer keeps the columns of the open block collections and, for each open flow collection and
the block context, the place where a key may have begun. A colon after such a place makes a key of
what stands there: the key token is put in front of it, and a block mapping begins if the key is
indented further than the collections around. A key has to end in the line it begins in, and within
1024 characters.
-/

namespace AspiManager

namespace Yaml

/-- A place where a key may have begun: the number of its token, where it is, and whether it has to
be a key because it stands where an entry of a block mapping begins. -/
structure KeyPlace where
  token : Nat
  index : Nat
  line : Nat
  column : Nat
  required : Bool
  deriving DecidableEq, Repr

/-- What the lexer knows. -/
structure Lexer where
  cursor : Cursor
  tokens : Array Token := #[]
  /-- The columns of the open block collections, the innermost first. -/
  indents : List Nat := []
  /-- Whether a key may begin here. -/
  keyAllowed : Bool := true
  /-- The key place of the innermost collection. -/
  keyPlace : Option KeyPlace := none
  /-- The key places around it, one for each open flow collection. -/
  outerPlaces : List (Option KeyPlace) := []
  deriving DecidableEq, Repr

namespace Lexer

/-- The longest key that may do without a mark. -/
def maxKey : Nat := 1024

def inFlow (l : Lexer) : Bool := !l.outerPlaces.isEmpty

/-- The least column of what belongs to the innermost block collection. -/
def room (l : Lexer) : Nat :=
  match l.indents with
  | [] => 0
  | column :: _ => column + 1

def push (l : Lexer) (t : Token) : Lexer := { l with tokens := l.tokens.push t }

def skip (l : Lexer) (n : Nat) : Lexer := { l with cursor := l.cursor.skip n }

def allowKey (l : Lexer) (allowed : Bool) : Lexer := { l with keyAllowed := allowed }

/-- Skips spaces, comments and line ends up to the next token. After a line end in the block context
a key may begin. Tabs only count as spaces where no key may begin. -/
def toToken : Nat → Lexer → Lexer
  | 0, l => l
  | n + 1, l =>
    let tabs := l.inFlow || !l.keyAllowed
    let c := l.cursor.skipWhile fun ch => ch == ' ' || (tabs && ch == '\t')
    let c := if c.peek 0 == some '#' then c.skipLine else c
    if (c.peek 0).any isBreak then
      toToken n { l with cursor := c.takeBreak.2, keyAllowed := l.keyAllowed || !l.inFlow }
    else { l with cursor := c }

/-- Whether a key place is out of reach. -/
def stale (l : Lexer) (k : KeyPlace) : Bool :=
  k.line < l.cursor.line || k.index + maxKey < l.cursor.index

/-- Drops a key place that is out of reach; fails if it had to be a key. -/
def dropStale (l : Lexer) (k : Option KeyPlace) : Option (Option KeyPlace) :=
  match k with
  | none => some none
  | some k => if !l.stale k then some (some k) else if k.required then none else some none

/-- Drops all key places that are out of reach. -/
def dropAllStale (l : Lexer) : Option Lexer := do
  return { l with keyPlace := ← l.dropStale l.keyPlace
                  outerPlaces := ← l.outerPlaces.mapM l.dropStale }

/-- Gives up the innermost key place; fails if it had to be a key. -/
def forgetKey (l : Lexer) : Option Lexer :=
  if l.keyPlace.any (·.required) then none else some { l with keyPlace := none }

/-- Notes that a key may begin here. -/
def noteKey (l : Lexer) : Option Lexer :=
  if l.keyAllowed then do
    let l ← l.forgetKey
    let c := l.cursor
    let required := !l.inFlow && l.room == c.column + 1
    return { l with keyPlace := some ⟨l.tokens.size, c.index, c.line, c.column, required⟩ }
  else some l

/-- Opens a block collection at a column if it is indented further than those around. Its token
gets a number. -/
def openBlock (l : Lexer) (column number : Nat) (t : Token) : Lexer :=
  if l.inFlow || column < l.room then l
  else { l with indents := column :: l.indents, tokens := l.tokens.insertIdxIfInBounds number t }

/-- Closes the block collections whose column does not satisfy a test. -/
def closeBlocks (keep : Nat → Bool) : List Nat → Array Token → List Nat × Array Token
  | [], ts => ([], ts)
  | column :: rest, ts =>
    if keep column then (column :: rest, ts) else closeBlocks keep rest (ts.push .blockEnd)

/-- Closes the block collections that are indented further than a column. -/
def closeTo (l : Lexer) (column : Nat) : Lexer :=
  if l.inFlow then l
  else
    let (indents, tokens) := closeBlocks (· ≤ column) l.indents l.tokens
    { l with indents := indents, tokens := tokens }

/-- Closes all block collections. -/
def closeAll (l : Lexer) : Lexer :=
  if l.inFlow then l
  else { l with indents := [], tokens := (closeBlocks (fun _ => false) l.indents l.tokens).2 }

/-- A token of so many characters, with which no collection starts or ends. -/
def mark (l : Lexer) (t : Token) (n : Nat) (keyAfter : Bool) : Lexer :=
  ((l.skip n).push t).allowKey keyAfter

def documentMark (l : Lexer) (t : Token) : Option Lexer := do
  return (← l.closeAll.forgetKey).mark t 3 false

def directive (l : Lexer) : Option Lexer := do
  let l ← l.closeAll.forgetKey
  let (t, c) ← directive? l.cursor
  return ({ l with cursor := c }.push t).allowKey false

def flowOpen (l : Lexer) (t : Token) : Option Lexer := do
  let l ← l.noteKey
  return { l with keyPlace := none, outerPlaces := l.keyPlace :: l.outerPlaces }.mark t 1 true

def flowClose (l : Lexer) (t : Token) : Option Lexer := do
  let l ← l.forgetKey
  let l := match l.outerPlaces with
    | [] => l
    | k :: rest => { l with keyPlace := k, outerPlaces := rest }
  return l.mark t 1 false

def comma (l : Lexer) : Option Lexer := do return (← l.forgetKey).mark .comma 1 true

/-- Opens a block collection at the cursor, where one may begin. -/
def openHere (l : Lexer) (t : Token) : Option Lexer :=
  if l.inFlow then some l
  else if l.keyAllowed then some (l.openBlock l.cursor.column l.tokens.size t)
  else none

def dash (l : Lexer) : Option Lexer := do
  return (← (← l.openHere .blockSequence).forgetKey).mark .dash 1 true

def keyMark (l : Lexer) : Option Lexer := do
  let l ← (← l.openHere .blockMapping).forgetKey
  return l.mark .key 1 (!l.inFlow)

def valueMark (l : Lexer) : Option Lexer :=
  match l.keyPlace with
  | some k =>
    let l := { l with keyPlace := none, tokens := l.tokens.insertIdxIfInBounds k.token .key }
    some ((l.openBlock k.column k.token .blockMapping).mark .value 1 false)
  | none => do
    let l ← l.openHere .blockMapping
    return l.mark .value 1 (!l.inFlow)

/-- A token that may be a key or stand in front of one. -/
def node (l : Lexer) (read : Lexer → Option (Token × Bool × Cursor)) : Option Lexer := do
  let l ← l.noteKey
  let (t, keyAfter, c) ← read l
  return ({ l with cursor := c }.push t).allowKey keyAfter

def name (make : String → Token) (l : Lexer) : Option (Token × Bool × Cursor) := do
  let (name, c) ← anchorName? (l.cursor.skip 1)
  return (make name, false, c)

def tagMark (l : Lexer) : Option (Token × Bool × Cursor) := do
  let (t, c) ← tag? l.inFlow l.cursor
  return (t, false, c)

def quoted (quote : Char) (l : Lexer) : Option (Token × Bool × Cursor) := do
  let (text, c) ← quotedScalar quote (l.cursor.rest.length + 1) (l.cursor.skip 1) []
  let style := if quote == '"' then Style.doubleQuoted else .singleQuoted
  return (.scalar style (String.ofList text.reverse), false, c)

def plain (l : Lexer) : Option (Token × Bool × Cursor) := do
  let (text, afterLine, c) ←
    plainScalar l.inFlow l.room (l.cursor.rest.length + 1) l.cursor [] .none
  return (.scalar .plain (String.ofList text.reverse), afterLine, c)

def block (l : Lexer) (folded : Bool) : Option Lexer := do
  let l ← l.forgetKey
  let (text, c) ← blockScalar? folded l.room (l.cursor.skip 1)
  let style := if folded then Style.folded else .literal
  return ({ l with cursor := c }.push (.scalar style (String.ofList text))).allowKey true

/-- The characters that cannot begin a plain scalar just so. -/
def marks : List Char :=
  ['-', '?', ':', ',', '[', ']', '{', '}', '#', '&', '*', '!', '|', '>', '\'', '"', '%', '@',
    '\x60']

/-- Whether a plain scalar can begin with a character before another. -/
def startsPlain (inFlow : Bool) (c : Char) (next : Option Char) : Bool :=
  !(isGap c || marks.contains c) || (c == '-' && !next.any isSpace) ||
    (!inFlow && (c == '?' || c == ':') && !endsWord next)

/-- The next token, at its first character. -/
def token (l : Lexer) (c : Char) : Option Lexer :=
  let next := l.cursor.peek 1
  let apart := l.inFlow || endsWord next
  if l.cursor.column == 0 && c == '%' then l.directive
  else if l.cursor.atMark '-' then l.documentMark .documentStart
  else if l.cursor.atMark '.' then l.documentMark .documentEnd
  else if c == '[' then l.flowOpen .sequenceOpen
  else if c == '{' then l.flowOpen .mappingOpen
  else if c == ']' then l.flowClose .sequenceClose
  else if c == '}' then l.flowClose .mappingClose
  else if c == ',' then l.comma
  else if c == '-' && endsWord next then l.dash
  else if c == '?' && apart then l.keyMark
  else if c == ':' && apart then l.valueMark
  else if c == '*' then l.node (name .aliasOf)
  else if c == '&' then l.node (name .anchor)
  else if c == '!' then l.node tagMark
  else if c == '|' && !l.inFlow then l.block false
  else if c == '>' && !l.inFlow then l.block true
  else if c == '\'' || c == '"' then l.node (quoted c)
  else if startsPlain l.inFlow c next then l.node plain
  else none

/-- The end of the text. -/
def finish (l : Lexer) : Option (List Token) := do
  let l ← l.closeAll.forgetKey
  return l.tokens.toList

/-- All tokens from here on. The number bounds the tokens that are read. -/
def run : Nat → Lexer → Option (List Token)
  | 0, _ => none
  | n + 1, l => do
    let l ← (l.toToken (l.cursor.rest.length + 1)).dropAllStale
    match l.cursor.peek 0 with
    | none => l.finish
    | some c => run n (← (l.closeTo l.cursor.column).token c)

end Lexer

/-- The tokens of a text; none if the text is not well formed. -/
def tokens? (text : String) : Option (List Token) :=
  let cs := match text.toList with
    | '\uFEFF' :: rest => rest
    | cs => cs
  if cs.all isPrintable then Lexer.run (cs.length + 1) { cursor := { rest := cs } } else none

end Yaml

end AspiManager
