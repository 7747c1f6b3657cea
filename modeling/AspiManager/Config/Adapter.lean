/-!
# The host adapter

What the one host adapter says about itself, and the settings used where none are given.
-/

namespace AspiManager

/-- What the host adapter says about itself. -/
structure Adapter where
  scsiId : UInt8 := 7
  managerId : String := "ASPI for Linux"
  identifier : String := "sg host"
  maxTransferLength : UInt32 := 0x20000
  extBufferSize : UInt16 := 0x2000
  deriving DecidableEq, Repr, Inhabited

end AspiManager
