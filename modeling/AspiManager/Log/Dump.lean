import AspiManager.Log.Event
import AspiManager.Memory.Range
import AspiManager.Request.Basic
import AspiManager.Scsi.Inquiry
import AspiManager.Scsi.Sense

/-!
# Dumps of requests and results

The events that show a request as the caller filled it in, and what came back for it: the vendor of
an INQUIRY, the sense octets of a TEST UNIT READY.
-/

namespace AspiManager

namespace Log

namespace Dump

def event (message : String) (fields : List (String × Value)) : Event :=
  { level := .trace, source := .dump, message := message, fields := fields }

def number (n : Nat) : Value := .int n

/-- All fields of a request and the address of its data window, if it has one. -/
def requestFields (r : Request) (window : Option AspiManager.Range) : List (String × Value) :=
  [("flags", .text r.flags.text), ("direction", .text r.direction.describe),
    ("residual", .bool (r.flags.has .residual)), ("linking", .bool (r.flags.has .link)),
    ("posting", .bool r.posting), ("target", number r.target.toNat),
    ("lun", number r.lun.toNat), ("buflen", number r.data.len.toNat),
    ("senselen", number r.sense.len.toNat), ("buf_ptr", .text r.data.ptr.text),
    ("buf_linear", .text (Record.optional (window.map fun w => toString w.base))),
    ("link_ptr", number r.link.toNat), ("cdb_len", number r.cdb.length),
    ("post_proc", .text (Record.optional (r.postProc.map FarPtr.text))),
    ("cdb", .text (Hex.encode r.cdb))]

/-- What the command block says, for the commands that are looked into. -/
def command (cdb : Bytes) : List Event :=
  match Scsi.InquiryCommand.parse? cdb with
  | some i => [event "INQUIRY"
      [("evpd", .bool i.vitalProduct), ("lun", number i.lun.toNat),
        ("page_code", number i.page.toNat), ("allocation_len", number i.allocation.toNat),
        ("control", number i.control.toNat)]]
  | none =>
    if cdb.head? = some Scsi.scanCode then
      cdb[4]?.toList.map fun n => event "SCAN" [("transfer_len", number n.toNat)]
    else []

/-- The dump of a request. -/
def request (r : Request) (window : Option AspiManager.Range) : List Event :=
  event "SCSI request" (requestFields r window) :: command r.cdb

/-- The dump of sense octets, and of what they mean if they can be read. -/
def senseEvents (sense : Bytes) : List Event :=
  event "Request Sense reports" [("sense", .text (Hex.encode sense))] ::
    match Scsi.Sense.parse sense with
    | .ok s => [event "Sense" [("parsed", .text s.text)]]
    | .error _ => []

/-- The dump of what came back for a request. -/
def result (r : Request) (data sense : Bytes) : List Event :=
  match r.cdb with
  | [] => []
  | op :: _ =>
    if op = Scsi.inquiryCode then
      match Scsi.Inquiry.vendor? data with
      | some v => [event "Vendor" [("vendor", .text v)]]
      | none => []
    else if op = Scsi.testUnitReadyCode then senseEvents sense
    else []

end Dump

end Log

end AspiManager
