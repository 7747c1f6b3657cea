import AspiManager.Scsi.Command
import AspiManager.Text.Blank

/-!
# Standard INQUIRY data

What a device answers to INQUIRY: its type, and who made it. The names are ASCII; octets that are
not, and zeros, count as spaces.
-/

namespace AspiManager

namespace Scsi

/-- The standard data of a device. -/
structure Inquiry where
  qualifier : UInt8
  deviceType : UInt8
  removable : Bool
  version : UInt8
  format : UInt8
  additionalLength : UInt8
  vendor : String
  product : String
  revision : String
  deriving DecidableEq, Repr

namespace Inquiry

/-- The least number of octets of standard data. -/
def minLength : Nat := 36

/-- What is said about standard data that is too short. -/
def shortMessage (n : Nat) : String := "INQUIRY buffer too short: " ++ toString n

/-- The text of a name field. -/
def name (bs : Bytes) : String :=
  String.ofList <| Blank.trim <| bs.map fun b =>
    if b < 0x80 ∧ b ≠ 0 then Char.ofNat b.toNat else ' '

def parse? (bs : Bytes) : Option Inquiry :=
  if bs.length < minLength then none
  else some
    { qualifier := bs.octet 0 / 0x20, deviceType := bs.octet 0 &&& 0x1F,
      removable := bs.octet 1 &&& 0x80 != 0, version := bs.octet 2,
      format := bs.octet 3 &&& 0x0F, additionalLength := bs.octet 4,
      vendor := name ((bs.drop 8).take 8), product := name ((bs.drop 16).take 16),
      revision := name ((bs.drop 32).take 4) }

/-- The vendor of a device, as soon as the data reaches that far. -/
def vendor? (bs : Bytes) : Option String :=
  if bs.length < 16 then none else some (name ((bs.drop 8).take 8))

/-- The device types that have a name. -/
def typeNames : List (UInt8 × String) :=
  [(0x00, "Direct-access block (disk)"), (0x01, "Sequential-access (tape)"), (0x02, "Printer"),
    (0x03, "Processor"), (0x04, "WORM"), (0x05, "CD/DVD"), (0x06, "Scanner"),
    (0x07, "Optical memory"), (0x08, "Medium changer"), (0x09, "Communications")]

def typeText (i : Inquiry) : String := (typeNames.lookup i.deviceType).getD "Unknown/Reserved"

end Inquiry

end Scsi

end AspiManager
