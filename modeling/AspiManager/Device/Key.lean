import AspiManager.Text.Blank
import AspiManager.Text.Numeral
import AspiManager.Text.Quoted

/-!
# Device keys

A logical device is named by adapter, target and unit, written `c0t2d0`. A name may also carry the
word `scsi` in front, may be in capitals, and may have blanks around it; numbers may have leading
zeros and a plus sign.
-/

namespace AspiManager

/-- Adapter, target and logical unit of a device. -/
structure DeviceKey where
  adapter : UInt8
  target : UInt8
  lun : UInt8
  deriving DecidableEq, Repr, Inhabited

namespace DeviceKey

def text (k : DeviceKey) : String :=
  "c" ++ toString k.adapter.toNat ++ "t" ++ toString k.target.toNat ++ "d" ++
    toString k.lun.toNat

/-- The rest of a name after the word `scsi` and a space, in small or capital letters. -/
def stripWord : List Char → List Char
  | 's' :: 'c' :: 's' :: 'i' :: ' ' :: rest => rest
  | 'S' :: 'C' :: 'S' :: 'I' :: ' ' :: rest => rest
  | cs => cs

/-- What comes before and after the first `c`. -/
def cut (c : Char) (cs : List Char) : Option (List Char × List Char) :=
  match cs.dropWhile (· ≠ c) with
  | [] => none
  | _ :: rest => some (cs.takeWhile (· ≠ c), rest)

/-- The key that the letters `c…t…d…` spell. -/
def ofLetters : List Char → Option DeviceKey
  | 'c' :: rest => do
    let (adapter, rest) ← cut 't' rest
    let (target, lun) ← cut 'd' rest
    return ⟨← Numeral.octet? adapter, ← Numeral.octet? target, ← Numeral.octet? lun⟩
  | _ => none

/-- The key that a name spells. -/
def parse? (name : String) : Option DeviceKey :=
  ofLetters ((Blank.dropFront (stripWord (Blank.trim name.toList))).map Char.toLower)

/-- What is said about a name that spells no key. -/
def badNameMessage (name : String) : String :=
  "invalid device name " ++ Quoted.text name ++ ", expected cNtNdN"

end DeviceKey

end AspiManager
