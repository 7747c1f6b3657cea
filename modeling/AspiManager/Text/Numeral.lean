/-!
# Bounded numerals

Numbers in a given base, read from the left: a digit that is none ends the reading before a value
that is too large is looked at, digit by digit. A plus sign may stand in front; a minus sign only
where negative numbers are allowed.
-/

namespace AspiManager

namespace Numeral

/-- Why a text is no number of the wanted kind. -/
inductive Error where
  | empty
  | invalidDigit
  | tooLarge
  | tooSmall
  deriving DecidableEq, Repr

def Error.message : Error → String
  | empty => "cannot parse integer from empty string"
  | invalidDigit => "invalid digit found in string"
  | tooLarge => "number too large to fit in target type"
  | tooSmall => "number too small to fit in target type"

/-- The value of a digit in a base up to 36, letters in either case. -/
def digitValue? (radix : Nat) (c : Char) : Option Nat :=
  let v :=
    if '0' ≤ c ∧ c ≤ '9' then some (c.toNat - 48)
    else if 'a' ≤ c ∧ c ≤ 'z' then some (c.toNat - 87)
    else if 'A' ≤ c ∧ c ≤ 'Z' then some (c.toNat - 55)
    else none
  v.filter (· < radix)

/-- Reads digits onto the value `acc`, which may not pass `max`. -/
def digits (radix max : Nat) (acc : Nat) : List Char → Except Error Nat
  | [] => .ok acc
  | c :: rest =>
    match digitValue? radix c with
    | none => .error .invalidDigit
    | some d =>
      if radix * acc + d ≤ max then digits radix max (radix * acc + d) rest
      else .error .tooLarge

/-- A number without a minus sign, at most `max`. -/
def natural (radix max : Nat) : List Char → Except Error Nat
  | [] => .error .empty
  | ['+'] => .error .invalidDigit
  | '+' :: rest => digits radix max 0 rest
  | cs => digits radix max 0 cs

/-- A number of a signed type: at most `2 ^ bits - 1`, at least `-2 ^ bits`. -/
def integer (radix bits : Nat) : List Char → Except Error Int
  | ['-'] => .error .invalidDigit
  | '-' :: rest =>
    match digits radix (Nat.pow 2 bits) 0 rest with
    | .ok n => .ok (-(n : Int))
    | .error .tooLarge => .error .tooSmall
    | .error e => .error e
  | cs => (natural radix (Nat.pow 2 bits - 1) cs).map Int.ofNat

/-- A decimal number of one octet. -/
def octet? (cs : List Char) : Option UInt8 :=
  (natural 10 255 cs).toOption.map UInt8.ofNat

end Numeral

end AspiManager
