import AspiManager.Manager.Execute
import AspiManager.Srb.AdapterInquiry

/-!
# Entry points of a manager

A caller hands over a request (`submit`), or the address of a request block whose first octet says
what it asks for (`send`). Two more calls say what the manager is (`supportInfo`, `version`).

The addresses of blocks, buffers and post routines are exact numbers. With words of 64 bits in their
place, and with both ways to go on when a sum is not a word, every call does the same as long as no
pointer overshoots (`Machine.perform_eq`).
-/

namespace AspiManager

namespace Manager

variable {σ : Type}

/-- Success in the high octet, the number of adapters in the low one. -/
def supportInfo : UInt16 :=
  Status.complete.toByte.toUInt16 * 0x100 + Srb.AdapterInquiry.adapters.toUInt16

/-- The version of the interface. -/
def version : UInt32 := 2

/-- Runs a request that has no block. -/
def submit (m : Manager σ) (mode : AddressingMode) (r : Request) : Run σ Request :=
  m.execute mode r none

/-- A warning about a block that cannot be read. -/
def blockWarning (message : String) (srb : FarPtr) (fields : List (String × Log.Value)) :
    Log.Event :=
  event .warn message (("srb", .text srb.text) :: fields)

/-- Fills in a block that asks for the adapter. -/
def adapterInquiry (m : Manager σ) (mode : AddressingMode) (srb : FarPtr) : Run σ Status := do
  match (← Run.memory).resolve mode srb Srb.AdapterInquiry.length with
  | .error e =>
    Run.report (blockWarning "Bad HA_INQUIRY block" srb [("error", .text e.message)])
    return .invalid
  | .ok range =>
    match Srb.AdapterInquiry.parse? (← Run.slice range) with
    | none => return .invalid
    | some block =>
      if block.signature = Srb.AdapterInquiry.extendedSignature then
        Run.report (event .trace "Extended request detected (not yet supported)" [])
      Run.replace range (block.answer m.adapter).encode
      return .complete

/-- Marks a block as malformed of which only the fixed part can be reached. -/
def rejectBlock (fixed : Range) : Run σ Status := do
  let octets ← Run.slice fixed
  Run.replace fixed (octets.set Srb.statusOffset Status.invalid.toByte)
  return .invalid

/-- Executes the command of a block. -/
def executeBlock (m : Manager σ) (mode : AddressingMode) (srb : FarPtr) : Run σ Status := do
  match (← Run.memory).resolve mode srb Srb.Exec.fixedLength with
  | .error e =>
    Run.report (blockWarning "Bad EXEC_SCSI_CMD block" srb [("error", .text e.message)])
    return .invalid
  | .ok fixed =>
    match Srb.Exec.parse? (← Run.slice fixed) with
    | none => return .invalid
    | some header =>
      match (← Run.memory).resolve mode srb header.totalLength with
      | .error e =>
        Run.report (blockWarning "SRB tail out of reach" srb
          [("len", .int header.totalLength), ("error", .text e.message)])
        rejectBlock fixed
      | .ok range =>
        let octets ← Run.slice range
        let cdb := (octets.drop Srb.Exec.fixedLength).take header.cdbLength.toNat
        let r ← m.execute mode (header.toRequest srb cdb) (some ⟨srb, range⟩)
        return r.status

/-- Does what the first octet of a block asks for. -/
def dispatch (m : Manager σ) (mode : AddressingMode) (srb : FarPtr) (header : Srb.Header) :
    Run σ Status := do
  match Srb.Command.ofByte? header.command with
  | some .adapterInquiry => m.adapterInquiry mode srb
  | some .execute => m.executeBlock mode srb
  | some c =>
    Run.report (event .warn "Not implemented"
      [("command", .text c.label), ("ha_id", .int header.adapter.toNat)])
    return .invalid
  | none =>
    Run.report (event .warn "Unknown command"
      [("error", .text (Srb.Command.unknownMessage header.command))])
    return .invalid

/-- Runs the request block at an address. -/
def send (m : Manager σ) (mode : AddressingMode) (srb : FarPtr) : Run σ Status := do
  match (← Run.memory).resolve mode srb Srb.Header.length with
  | .error e =>
    Run.report (blockWarning "Bad SRB pointer" srb [("error", .text e.message)])
    return .invalid
  | .ok range =>
    match Srb.Header.parse? (← Run.slice range) with
    | none => return .invalid
    | some header => m.dispatch mode srb header

end Manager

end AspiManager
