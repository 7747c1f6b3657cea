import AspiManager.Bytes.Basic

/-!
# Command blocks

The command blocks that are built or looked into here: INQUIRY and TEST UNIT READY, both of six
octets.
-/

namespace AspiManager

namespace Scsi

def inquiryCode : UInt8 := 0x12

def testUnitReadyCode : UInt8 := 0x00

/-- The code of SCAN; its fifth octet is the length of the transfer. -/
def scanCode : UInt8 := 0x1B

/-- Asks for the standard data of a device. -/
def inquiry (allocation : UInt8) : Bytes := [inquiryCode, 0, 0, 0, allocation, 0]

/-- Asks for a page of vital product data. -/
def inquiryPage (page allocation : UInt8) : Bytes := [inquiryCode, 1, page, 0, allocation, 0]

/-- Asks whether a device is ready. Nothing moves. -/
def testUnitReady (control : UInt8) : Bytes := [testUnitReadyCode, 0, 0, 0, 0, control]

/-- What an INQUIRY command block asks for. -/
structure InquiryCommand where
  vitalProduct : Bool
  lun : UInt8
  page : UInt8
  allocation : UInt8
  control : UInt8
  deriving DecidableEq, Repr

/-- Reads an INQUIRY command block; octets past the sixth do not matter. -/
def InquiryCommand.parse? : Bytes → Option InquiryCommand
  | op :: a :: page :: _ :: allocation :: control :: _ =>
    if op = inquiryCode then some ⟨a &&& 1 != 0, a / 0x20, page, allocation, control⟩ else none
  | _ => none

end Scsi

end AspiManager
