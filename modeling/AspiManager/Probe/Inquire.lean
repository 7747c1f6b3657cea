import AspiManager.Manager.Dispatch
import AspiManager.Probe.Options
import AspiManager.Scsi.Inquiry
import AspiManager.Scsi.Sense

/-!
# One INQUIRY through a manager

A probe lays out a request block and a data area in the memory of a caller, asks the manager for the
adapter, and sends the INQUIRY. It shows what the device answered, or, if the command failed, the
sense data at the end of the block.
-/

namespace AspiManager

namespace Probe

/-- The caller's memory. -/
def memorySize : Nat := 0x100000

/-- Where the request block is. -/
def blockBase : Nat := 0x10000

/-- Where the answer of the device goes. -/
def dataBase : Nat := 0x20000

/-- The length of the segments of a caller in protected mode. -/
def segmentLength : Nat := 0x1000

/-- The length of the sense area. -/
def senseLength : UInt8 := 14

/-- Why a probe fails. -/
inductive Failure where
  /-- The command does not succeed. -/
  | status (key : DeviceKey) (status : Status)
  /-- The standard data is too short. -/
  | tooShort (length : Nat)
  /-- The block cannot be addressed. -/
  | address (cause : AddressError)
  deriving DecidableEq, Repr

def Failure.message : Failure → String
  | status key s => "INQUIRY to " ++ key.text ++ " failed: " ++ s.text
  | tooShort n => Scsi.Inquiry.shortMessage n
  | address e => e.message

/-- What a probe shows, and why it fails if it does. -/
structure Report where
  lines : List String
  failure : Option Failure := none
  deriving DecidableEq, Repr

/-- The pointer to an address as a caller holds it: in protected mode it makes a selector. -/
def pointer (m : Memory) (mode : AddressingMode) (base : Nat) :
    Except AddressError (FarPtr × Memory) :=
  match mode with
  | .realMode => .ok (⟨UInt16.ofNat (base / 0x10), UInt16.ofNat (base % 0x10)⟩, m)
  | .protectedMode => do
    let (selector, m) ← m.allocSelector base segmentLength
    return (⟨selector, 0⟩, m)

/-- The pointers to the request block and to the data area. -/
structure Layout where
  block : FarPtr
  data : FarPtr
  deriving DecidableEq, Repr

/-- Makes the pointers of a caller. -/
def layOut (m : Memory) (mode : AddressingMode) : Except AddressError (Layout × Memory) := do
  let (block, m) ← pointer m mode blockBase
  let (data, m) ← pointer m mode dataBase
  return (⟨block, data⟩, m)

/-- What is shown about the adapter. -/
def adapterLine (q : Srb.AdapterInquiry) (s : Status) : String :=
  "adapter: " ++ Srb.nameText q.managerId ++ " / " ++ Srb.nameText q.identifier ++
    " (scsi id " ++ toString q.scsiId.toNat ++ ", " ++ s.text ++ ")"

/-- The block that asks for a device. -/
def block (o : Options) (data : FarPtr) : Bytes :=
  (Srb.Draft.start o.device.adapter o.device.target o.device.lun
    |>.flags (Flags.none.set .input)
    |>.data ⟨data, o.allocation.toUInt32⟩
    |>.senseLength senseLength
    |>.command o.command).build

/-- The front of a page of vital product data that its length field, after three octets, and the
allocation leave. -/
def pageOctets (answer : Bytes) : Bytes :=
  answer.take (4 + 0x100 * (answer.octet 2).toNat + (answer.octet 3).toNat)

/-- What is shown about a page. -/
def pageLine (key : DeviceKey) (page : UInt8) (answer : Bytes) : String :=
  key.text ++ ": VPD page 0x" ++ Hex.padded 2 page.toNat ++ ": " ++ Hex.encode (pageOctets answer)

/-- What is shown about standard data. -/
def standardLines (key : DeviceKey) (i : Scsi.Inquiry) : List String :=
  [key.text ++ ": " ++ i.vendor ++ " " ++ i.product ++ " " ++ i.revision, "type: " ++ i.typeText]

/-- What is shown about the answer of a device. -/
def answerReport (o : Options) (answer : Bytes) : Report :=
  match o.page with
  | some page => ⟨[pageLine o.device page answer], none⟩
  | none =>
    match Scsi.Inquiry.parse? answer with
    | some i => ⟨standardLines o.device i, none⟩
    | none => ⟨[], some (.tooShort answer.length)⟩

/-- What is shown about a command that failed. -/
def failedReport (o : Options) (s : Status) (sense : Bytes) : Report :=
  { lines := match Scsi.Sense.parse sense with
      | .ok sense => ["sense: " ++ sense.text]
      | .error _ => []
    failure := some (.status o.device s) }

/-- An event of the program. -/
def event (message : String) (fields : List (String × Log.Value)) : Log.Event :=
  { level := .info, source := .program, message := message, fields := fields }

variable {σ : Type}

/-- Puts octets into the caller's memory. -/
def place (base : Nat) (octets : Bytes) : Run σ Unit := do
  Run.setMemory ((← Run.memory).write base octets).2

/-- Asks for the adapter. -/
def askAdapter (m : Manager σ) (mode : AddressingMode) (srb : FarPtr) : Run σ String := do
  place blockBase ({} : Srb.AdapterInquiry).encode
  let s ← m.send mode srb
  let octets := (← Run.memory).read blockBase Srb.AdapterInquiry.length
  return adapterLine ((Srb.AdapterInquiry.parse? octets).getD {}) s

/-- Sends the INQUIRY and looks at what became of it. -/
def askDevice (m : Manager σ) (o : Options) (l : Layout) : Run σ Report := do
  place blockBase (block o l.data)
  let s ← m.send o.mode l.block
  Run.report (event "INQUIRY done" [("key", .text o.device.text), ("status", .text s.text)])
  let memory ← Run.memory
  if s = .complete then
    return answerReport o (memory.read dataBase o.allocation.toNat)
  return failedReport o s
    (memory.read (blockBase + Srb.Exec.fixedLength + o.command.length) senseLength.toNat)

/-- Probes a device. -/
def inquire (m : Manager σ) (o : Options) : Run σ Report := do
  match layOut (← Run.memory) o.mode with
  | .error e => return ⟨[], some (.address e)⟩
  | .ok (l, memory) =>
    Run.setMemory memory
    Run.report (event "ASPI manager"
      [("support_info", .int Manager.supportInfo.toNat), ("version", .int Manager.version.toNat)])
    let adapter ← askAdapter m o.mode l.block
    let report ← askDevice m o l
    return { report with lines := adapter :: report.lines }

end Probe

end AspiManager
