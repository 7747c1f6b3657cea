import AspiManager.Text.Numeral
import AspiManager.Yaml.Node

/-!
# What a scalar means

A plain scalar that reads as null, a truth value or a number means that; any other scalar is text.
Numbers with leading zeros are text. A tag of the standard types has to fit, a tag of any other type
makes text, and a private tag has no meaning here.
-/

namespace AspiManager

namespace Yaml

/-- What a scalar means. -/
inductive Meaning where
  | null
  | truth (b : Bool)
  | integer (n : Int)
  | decimal
  | text (s : String)
  deriving DecidableEq, Repr

namespace Plain

def truth? (s : String) : Option Bool :=
  if ["true", "True", "TRUE"].contains s then some true
  else if ["false", "False", "FALSE"].contains s then some false
  else none

def isNull (s : String) : Bool := ["null", "Null", "NULL", "~"].contains s

/-- The rest of a text after a sign. -/
def dropSign (cs : List Char) : List Char :=
  match cs with
  | '-' :: rest | '+' :: rest => rest
  | cs => cs

def startsSigned (cs : List Char) : Bool := cs.head? == some '-' || cs.head? == some '+'

/-- Digits with a zero in front, which are no number. -/
def isPadded (cs : List Char) : Bool :=
  match dropSign cs with
  | '0' :: rest => !rest.isEmpty && rest.all Char.isDigit
  | _ => false

/-- The marks in front of numbers that are not decimal. -/
def radixes : List (Char × Nat) := [('x', 16), ('o', 8), ('b', 2)]

/-- A number after the mark of its base. -/
def radixed? (max : Nat) : List Char → Option Nat
  | '0' :: mark :: rest => do
    let radix ← radixes.lookup mark
    if startsSigned rest then none
    (Numeral.natural radix max rest).toOption
  | _ => none

/-- A number without a minus sign, at most `max`. -/
def natural? (max : Nat) (cs : List Char) : Option Nat :=
  let plain := match cs with
    | '+' :: rest => rest
    | cs => cs
  match radixed? max plain with
  | some n => some n
  | none =>
    if startsSigned plain || isPadded cs then none
    else (Numeral.natural 10 max plain).toOption

/-- A number with a minus sign whose size is at most `max`. -/
def negative? (max : Nat) : List Char → Option Nat
  | '-' :: rest =>
    match radixed? max rest with
    | some n => some n
    | none =>
      if isPadded rest || startsSigned rest then none
      else (Numeral.natural 10 max rest).toOption
  | _ => none

/-- A number of up to 128 bits. -/
def integer? (cs : List Char) : Option Int :=
  match natural? (Nat.pow 2 128 - 1) cs with
  | some n => some n
  | none => (negative? (Nat.pow 2 127) cs).map fun n => -(n : Int)

/-- The digits in front, and the rest. -/
def digits (cs : List Char) : List Char × List Char :=
  (cs.takeWhile Char.isDigit, cs.dropWhile Char.isDigit)

/-- The number that decimal digits give. -/
def valueOf (ds : List Char) : Nat := ds.foldl (fun v d => 10 * v + (d.toNat - 48)) 0

/-- The power of ten after an `e`, zero if there is none. -/
def exponent? : List Char → Option Int
  | [] => some 0
  | e :: rest =>
    let (ds, after) := digits (dropSign rest)
    if (e != 'e' && e != 'E') || ds.isEmpty || !after.isEmpty then none
    else if rest.head? == some '-' then some (-(valueOf ds : Int)) else some (valueOf ds)

/-- The digits of a decimal number as a whole number, and the power of ten to multiply it with. -/
def decimalParts? (cs : List Char) : Option (List Char × Int) := do
  let (whole, rest) := digits (dropSign cs)
  let (fraction, rest) := match rest with
    | '.' :: rest => digits rest
    | rest => ([], rest)
  if whole.isEmpty && fraction.isEmpty then none
  let e ← exponent? rest
  return (whole ++ fraction, e - fraction.length)

/-- The least number that is too large for a double. -/
def overflow : Nat := Nat.pow 2 1024 - Nat.pow 2 970

/-- Whether a number, given by digits and a power of ten, fits a double. -/
def fitsDouble (ds : List Char) (e : Int) : Bool :=
  let ds := ds.dropWhile (· == '0')
  let width := ds.length + e
  if ds.isEmpty || width < 300 then true
  else if 320 < width then false
  else if 0 ≤ e then valueOf ds * Nat.pow 10 e.toNat < overflow
  else valueOf ds < overflow * Nat.pow 10 (-e).toNat

/-- The texts of infinity and of what is no number. -/
def specials : List String := [".inf", ".Inf", ".INF", "-.inf", "-.Inf", "-.INF", "+.inf", "+.Inf",
  "+.INF", ".nan", ".NaN", ".NAN"]

/-- A number with a point or an exponent, or one of the special texts. -/
def isDecimal (cs : List Char) : Bool :=
  specials.contains (String.ofList cs) ||
    !(cs.head? == some '+' && startsSigned (cs.drop 1)) &&
      (decimalParts? cs).any fun (ds, e) => fitsDouble ds e

/-- What a plain scalar without a tag means. -/
def meaning (s : String) : Meaning :=
  let cs := s.toList
  if s.isEmpty || isNull s then .null
  else match truth? s, integer? cs with
    | some b, _ => .truth b
    | none, some n => .integer n
    | none, none => if !isPadded cs && isDecimal cs then .decimal else .text s

end Plain

/-- The tag of a standard type. -/
def standardTag (name : String) : String := "tag:yaml.org,2002:" ++ name

/-- What a scalar means; none if its tag does not fit or is private. -/
def meaning? (tag : Option String) (style : Style) (s : String) : Option Meaning :=
  match tag with
  | none => some (if style = .plain then Plain.meaning s else .text s)
  | some t =>
    if t.startsWith "!" then none
    else if t = standardTag "bool" then (Plain.truth? s).map .truth
    else if t = standardTag "int" then (Plain.integer? s.toList).map .integer
    else if t = standardTag "float" then
      if Plain.isDecimal s.toList then some .decimal else none
    else if t = standardTag "null" then if Plain.isNull s then some .null else none
    else some (.text s)

end Yaml

end AspiManager
