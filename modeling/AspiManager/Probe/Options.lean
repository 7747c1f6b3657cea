import AspiManager.Device.Key
import AspiManager.Memory.Address
import AspiManager.Scsi.Command

/-!
# What a probe asks for

A probe sends one INQUIRY to one device. `Options` says to which, on behalf of what kind of caller,
and whether it asks for the standard data or a page of vital product data.
-/

namespace AspiManager

namespace Probe

/-- What a probe is told on the command line. -/
structure Options where
  device : DeviceKey
  /-- The file with the devices and the adapter. -/
  config : String := "tests/config.yaml"
  /-- The file with the settings of the logger. -/
  logger : String := "tests/config_logger.yaml"
  mode : AddressingMode := .realMode
  /-- The most octets of an answer. -/
  allocation : UInt8 := 36
  /-- The page of vital product data, none for the standard data. -/
  page : Option UInt8 := none
  deriving DecidableEq, Repr

/-- The command block of the INQUIRY. -/
def Options.command (o : Options) : Bytes :=
  match o.page with
  | some page => Scsi.inquiryPage page o.allocation
  | none => Scsi.inquiry o.allocation

end Probe

end AspiManager
