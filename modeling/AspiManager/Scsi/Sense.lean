import AspiManager.Bytes.Hex
import AspiManager.Text.Quoted
import AspiManager.Text.Record

/-!
# Sense data

What a device says about a command that failed, in the fixed format: response code 0x70 (current)
or 0x71 (deferred), a sense key, and a pair of codes that describe the cause.
-/

namespace AspiManager

namespace Scsi

/-- Fixed-format sense data. -/
structure Sense where
  valid : Bool
  responseCode : UInt8
  filemark : Bool
  endOfMedium : Bool
  wrongLength : Bool
  key : UInt8
  information : UInt32
  additionalLength : UInt8
  commandSpecific : UInt32
  code : UInt8
  qualifier : UInt8
  deriving DecidableEq, Repr

/-- Why octets are no fixed-format sense data. -/
inductive SenseError where
  | tooShort (length : Nat)
  | format (responseCode : UInt8)
  deriving DecidableEq, Repr

namespace Sense

/-- The octets that reach to the cause. -/
def minLength : Nat := 14

end Sense

def SenseError.message : SenseError → String
  | tooShort n => "sense buffer too small: " ++ toString n ++ " < " ++ toString Sense.minLength
  | format c => "not fixed-format sense data: response code 0x" ++ Hex.padded 2 c.toNat

namespace Sense

def parse (bs : Bytes) : Except SenseError Sense :=
  let responseCode := bs.octet 0 &&& 0x7F
  let flags := bs.octet 2
  if bs.length < minLength then .error (.tooShort bs.length)
  else if responseCode ≠ 0x70 ∧ responseCode ≠ 0x71 then .error (.format responseCode)
  else .ok
    { valid := bs.octet 0 &&& 0x80 != 0, responseCode := responseCode,
      filemark := flags &&& 0x80 != 0, endOfMedium := flags &&& 0x40 != 0,
      wrongLength := flags &&& 0x20 != 0, key := flags &&& 0x0F,
      information := bs.bigWord32 3, additionalLength := bs.octet 7,
      commandSpecific := bs.bigWord32 8, code := bs.octet 12, qualifier := bs.octet 13 }

/-- The sense keys that have a name. -/
def keyNames : List (UInt8 × String) :=
  [(0x0, "NO SENSE"), (0x1, "RECOVERED ERROR"), (0x2, "NOT READY"), (0x3, "MEDIUM ERROR"),
    (0x4, "HARDWARE ERROR"), (0x5, "ILLEGAL REQUEST"), (0x6, "UNIT ATTENTION"),
    (0x7, "DATA PROTECT"), (0x8, "BLANK CHECK"), (0xB, "ABORTED COMMAND")]

def keyText (s : Sense) : String := (keyNames.lookup s.key).getD "RESERVED"

/-- The causes that have a description. -/
def causes : List ((UInt8 × UInt8) × String) :=
  [((0x00, 0x00), "No additional sense information"),
    ((0x04, 0x00), "Logical unit not ready, cause not reportable"),
    ((0x04, 0x01), "Logical unit is in process of becoming ready"),
    ((0x20, 0x00), "Invalid command operation code"),
    ((0x24, 0x00), "Invalid field in CDB"),
    ((0x25, 0x00), "Logical unit not supported"),
    ((0x28, 0x00), "Not ready to ready change, medium may have changed"),
    ((0x29, 0x00), "Power on, reset, or bus device reset occurred"),
    ((0x3A, 0x00), "Medium not present")]

/-- The description of a cause. -/
def causeText (code qualifier : UInt8) : String :=
  (causes.lookup (code, qualifier)).getD "UNSPECIFIED / vendor specific"

/-- The dump of sense data. -/
def text (s : Sense) : String :=
  Record.text "SenseData"
    [("valid", Record.truth s.valid), ("response_code", "0x" ++ Hex.padded 2 s.responseCode.toNat),
      ("sense_key", Quoted.text s.keyText), ("filemark", Record.truth s.filemark),
      ("eom", Record.truth s.endOfMedium), ("ili", Record.truth s.wrongLength),
      ("information", toString s.information.toNat),
      ("asc", "0x" ++ Hex.padded 2 s.code.toNat), ("ascq", "0x" ++ Hex.padded 2 s.qualifier.toNat),
      ("description", Quoted.text (causeText s.code s.qualifier))]

end Sense

end Scsi

end AspiManager
