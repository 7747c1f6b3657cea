import AspiManager.Bytes.Basic

/-!
# Hexadecimal text

Octets are written as two lowercase digits each, numbers without leading zeros or filled up to a
width.
-/

namespace AspiManager

namespace Hex

/-- The lowercase digit of `n` below 16. -/
def digit (n : Nat) : Char := if n < 10 then Char.ofNat (48 + n) else Char.ofNat (87 + n)

/-- The value of a digit in either case. -/
def digitValue? (c : Char) : Option Nat :=
  if '0' ≤ c ∧ c ≤ '9' then some (c.toNat - 48)
  else if 'a' ≤ c ∧ c ≤ 'f' then some (c.toNat - 87)
  else if 'A' ≤ c ∧ c ≤ 'F' then some (c.toNat - 55)
  else none

/-- The two digits of an octet. -/
def octetDigits (b : UInt8) : List Char := [digit (b.toNat / 16), digit (b.toNat % 16)]

/-- The digits of an octet string. -/
def encode (bs : Bytes) : String := String.ofList (bs.flatMap octetDigits)

/-- The octets that an even number of digits stands for. -/
def decodeDigits : List Char → Option Bytes
  | [] => some []
  | [_] => none
  | h :: l :: rest => do
    let h ← digitValue? h
    let l ← digitValue? l
    let rest ← decodeDigits rest
    return UInt8.ofNat (16 * h + l) :: rest

/-- Reads what `encode` writes, in either case. -/
def decode? (s : String) : Option Bytes := decodeDigits s.toList

/-- The digits of `n`, none in front that is zero but the last. -/
def number (n : Nat) : String := String.ofList (Nat.toDigits 16 n)

/-- The digits of `n`, at least `width` of them. -/
def padded (width n : Nat) : String :=
  let ds := Nat.toDigits 16 n
  String.ofList (List.replicate (width - ds.length) '0' ++ ds)

end Hex

end AspiManager
