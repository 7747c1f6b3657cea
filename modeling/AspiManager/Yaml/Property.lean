import AspiManager.Yaml.FlowScalar
import AspiManager.Yaml.Token

/-!
# Anchors, tags and directives

An anchor gives a node a name, a tag says what type it has, and a directive at the head of a
document gives the version of YAML or a short handle for tags.
-/

namespace AspiManager

namespace Yaml

/-- Ends a name after an anchor or alias mark. -/
def endsAnchor (c : Option Char) : Bool :=
  endsWord c || c.any fun ch => ['?', ':', ',', ']', '}', '%', '@', '\x60'].contains ch

/-- The name after an anchor or alias mark. -/
def anchorName? (c : Cursor) : Option (String × Cursor) :=
  let name := c.rest.takeWhile isNameChar
  let c := c.skip name.length
  if name.isEmpty || !endsAnchor (c.peek 0) then none else some (String.ofList name, c)

/-- A character of a tag. -/
def isTagChar (c : Char) : Bool :=
  isNameChar c || [';', '/', '?', ':', '@', '&', '=', '+', '$', '.', '%', '!', '~', '*', '\'', '(',
    ')'].contains c

/-- A character of a tag between angle brackets. -/
def isVerbatimChar (c : Char) : Bool := isTagChar c || c == ',' || c == '[' || c == ']'

/-- The octet that a percent sign and two digits stand for. -/
def percentOctet? : List Char → Option (Nat × List Char)
  | '%' :: h :: l :: rest => do return (16 * (← hexDigit? h) + (← hexDigit? l), rest)
  | _ => none

/-- The number of octets of a character by its first octet, and that octet's part of the code
point. -/
def leadOctet? (n : Nat) : Option (Nat × Nat) :=
  if n < 0x80 then some (0, n)
  else if 0xC0 ≤ n ∧ n < 0xE0 then some (1, n - 0xC0)
  else if 0xE0 ≤ n ∧ n < 0xF0 then some (2, n - 0xE0)
  else if 0xF0 ≤ n ∧ n < 0xF8 then some (3, n - 0xF0)
  else none

/-- Adds the escaped octets after the first to a code point. -/
def trailOctets? : Nat → Nat → List Char → Option (Nat × List Char)
  | 0, v, cs => some (v, cs)
  | n + 1, v, cs => do
    let (octet, cs) ← percentOctet? cs
    if octet < 0x80 || 0xC0 ≤ octet then none else trailOctets? n (0x40 * v + (octet - 0x80)) cs

/-- The character that escaped octets stand for. -/
def percentChar? (cs : List Char) : Option (Char × List Char) := do
  let (octet, cs) ← percentOctet? cs
  let (more, v) ← leadOctet? octet
  let (v, cs) ← trailOctets? more v cs
  return (Char.ofNat v, cs)

/-- The characters of a tag, escapes resolved, in reverse. -/
def tagText (isChar : Char → Bool) : Nat → Cursor → List Char → Option (List Char × Cursor)
  | 0, c, text => some (text, c)
  | n + 1, c, text =>
    match c.peek 0 with
    | none => some (text, c)
    | some '%' => do
      let (ch, rest) ← percentChar? c.rest
      tagText isChar n (c.skip (c.rest.length - rest.length)) (ch :: text)
    | some ch => if isChar ch then tagText isChar n (c.skip 1) (ch :: text) else some (text, c)

/-- The characters of a tag after some that are there already. -/
def tagSuffix? (isChar : Char → Bool) (c : Cursor) (before : List Char) :
    Option (String × Cursor) := do
  let (text, c) ← tagText isChar c.rest.length c []
  return (String.ofList (before ++ text.reverse), c)

/-- A handle: an exclamation mark, a name, and whether another exclamation mark closes it. -/
def tagHandle? (c : Cursor) : Option (List Char × Bool × Cursor) :=
  if c.peek 0 != some '!' then none
  else
    let name := (c.rest.drop 1).takeWhile isNameChar
    let c := c.skip (1 + name.length)
    if c.peek 0 == some '!' then some (name, true, c.skip 1) else some (name, false, c)

/-- A tag between angle brackets, which begin at the cursor's second character. -/
def verbatimTag? (c : Cursor) : Option (Token × Cursor) := do
  let (suffix, c) ← tagSuffix? isVerbatimChar (c.skip 2) []
  if suffix.isEmpty || c.peek 0 != some '>' then none
  else some (.tag "" suffix, c.skip 1)

/-- A tag with or without a handle. -/
def shortTag? (c : Cursor) : Option (Token × Cursor) := do
  let (name, closed, c) ← tagHandle? c
  if closed then
    let (suffix, c) ← tagSuffix? isTagChar c []
    if suffix.isEmpty then none
    else some (.tag (String.ofList ('!' :: name ++ ['!'])) suffix, c)
  else
    let (suffix, c) ← tagSuffix? isTagChar c name
    if suffix.isEmpty then some (.tag "" "!", c) else some (.tag "!" suffix, c)

/-- The tag at an exclamation mark. -/
def tag? (inFlow : Bool) (c : Cursor) : Option (Token × Cursor) := do
  let (t, c) ← if c.peek 1 == some '<' then verbatimTag? c else shortTag? c
  if endsWord (c.peek 0) || (inFlow && c.peek 0 == some ',') then some (t, c) else none

/-- A number of at most nine digits. -/
def versionNumber? (c : Cursor) : Option (Nat × Cursor) :=
  let digits := c.rest.takeWhile Char.isDigit
  if digits.isEmpty || 9 < digits.length then none
  else some (digits.foldl (fun v d => 10 * v + (d.toNat - 48)) 0, c.skip digits.length)

/-- A version: two numbers with a point between them. -/
def versionValue? (c : Cursor) : Option (Token × Cursor) := do
  let (major, c) ← versionNumber? (c.skipWhile isSpace)
  if c.peek 0 != some '.' then none
  let (minor, c) ← versionNumber? (c.skip 1)
  return (.version major minor, c)

/-- A handle and the start of the tags it stands for. -/
def handleValue? (c : Cursor) : Option (Token × Cursor) := do
  let (name, closed, c) ← tagHandle? (c.skipWhile isSpace)
  if !closed && !name.isEmpty then none
  if !(c.peek 0).any isSpace then none
  let (stem, c) ← tagSuffix? isVerbatimChar (c.skipWhile isSpace) []
  if stem.isEmpty || !endsWord (c.peek 0) then none
  return (.tagHandle (String.ofList ('!' :: name ++ if closed then ['!'] else [])) stem, c)

/-- The directive at a percent sign, which takes a whole line. -/
def directive? (c : Cursor) : Option (Token × Cursor) := do
  let name := (c.rest.drop 1).takeWhile isNameChar
  let c := c.skip (1 + name.length)
  if !endsWord (c.peek 0) then none
  let (t, c) ← match String.ofList name with
    | "YAML" => versionValue? c
    | "TAG" => handleValue? c
    | _ => none
  let c ← c.restOfLine?
  return (t, c.takeBreak.2)

end Yaml

end AspiManager
