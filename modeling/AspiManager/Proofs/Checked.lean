import AspiManager.Proofs.Call

/-!
# A manager that checks itself

The functions of a manager with every check that can be thought of written out: each part of a
string that is taken and each place that is written to has to be there, and where the manager has a
branch for what cannot happen (a block that does not parse though it was resolved, a block that is
too short to show a status, windows that overlap though they were resolved), the checked manager
breaks down.
-/

namespace AspiManager

namespace Run

variable {σ α : Type}

/-- Breaks down unless `c` holds. -/
def require (c : Prop) [Decidable c] : Run σ Unit := if c then return () else throw .outOfRange

/-- A value that has to be there. -/
def expect : Option α → Run σ α
  | some a => return a
  | none => throw .outOfRange

/-- The `n` octets of a string from place `start` on, which have to be there. -/
def part (bs : Bytes) (start n : Nat) : Run σ Bytes := do
  require (start + n ≤ bs.length)
  return (bs.drop start).take n

/-- The string with another octet in a place that has to be there. -/
def change (bs : Bytes) (i : Nat) (b : UInt8) : Run σ Bytes := do
  require (i < bs.length)
  return bs.set i b

end Run

namespace Checked

variable {σ : Type}

/-! ## Posting -/

/-- Makes a selector; its slot has to be in the table, or next to its end. -/
def allocSelector (memory : Memory) (base len : Nat) :
    Run σ (Except AddressError (UInt16 × Memory)) := do
  match memory.table.freeSlot? with
  | none => return .error .tableFull
  | some i =>
    Run.require (i ≤ memory.table.slots.size)
    return .ok (DescriptorTable.selector (i + 1),
      { memory with table := memory.table.put i (DescriptorTable.segment base len) })

def postArgument (memory : Memory) (mode : AddressingMode) (srb : FarPtr) (range : Range) :
    Run σ (Except AddressError (PostArgument × Memory)) := do
  match mode with
  | .realMode =>
    match ← allocSelector memory range.base range.len with
    | .error e => return .error e
    | .ok (s, memory) => return .ok (⟨⟨s, 0⟩, some s⟩, memory)
  | .protectedMode => return .ok (⟨srb, none⟩, memory)

def callWithBlock (m : Manager σ) (mode : AddressingMode) (entry routine : Nat) (r : Request)
    (block : Block) : Run σ (Except PostError Unit) := do
  match ← postArgument (← Run.memory) mode block.ptr block.range with
  | .error e => return .error (.address e)
  | .ok (arg, memory) =>
    Run.setMemory memory
    m.call entry routine ⟨arg.srb, r⟩
    Run.setMemory ((← Run.memory).release arg)
    return .ok ()

def post (m : Manager σ) (mode : AddressingMode) (r : Request) (block : Option Block) :
    Run σ (Except PostError Bool) := do
  match Manager.postEntry? r with
  | none => return .ok false
  | some ptr =>
    match (← Run.memory).resolve mode ptr 1 with
    | .error e => return .error (.address e)
    | .ok range =>
      match (← get).routines.find? range.base with
      | none => return .error (.unknownEntry range.base)
      | some routine =>
        Run.report
          { level := .trace, source := .posting, message := "Post Routine called"
            fields := [("post_proc", .text ptr.text), ("entry", .int range.base)] }
        match block with
        | none =>
          m.call range.base routine ⟨.null, r⟩
          return .ok true
        | some block =>
          return (← callWithBlock m mode range.base routine r block).map fun _ => true

def notify (m : Manager σ) (mode : AddressingMode) (r : Request) (block : Option Block) :
    Run σ Unit := do
  match ← post m mode r block with
  | .ok _ => return ()
  | .error e =>
    Run.report (Manager.event .warn "Post routine not called"
      [("post_proc", .text (Record.optional (r.postProc.map FarPtr.text))),
        ("error", .text e.message)])

/-! ## Exchange and delivery -/

/-- Asks a channel for a reply, which has to hold a header if it is as long as was asked for. -/
def collect (m : Manager σ) (channel expected : Nat) : Run σ (Except TransferError Sg.Reply) := do
  let count := max expected Sg.Header.length
  Run.record (.asked channel count)
  match ← Run.host (m.host.read channel count) with
  | .crashed => throw .device
  | .failed e => return .error (.io e)
  | .done (read, octets) =>
    if read = count then
      return .ok (← Run.expect (Sg.Reply.parse? (Bytes.fit count octets)))
    Run.report (Manager.exchangeEvent "not enough bytes read from scsi device"
      [("expected", .int count), ("read", .int read)])
    return .error (.shortRead count read)

def exchange (m : Manager σ) (channel : Nat) (message : Sg.Message) (expected : Nat) :
    Run σ (Except TransferError Sg.Reply) := do
  match ← m.offer channel message with
  | .error e => return .error e
  | .ok () => collect m channel expected

/-- The first `n` octets of `src` in the place of those of `dst`; both have to have them. -/
def copy (n : Nat) (dst src : Bytes) : Run σ Bytes := do
  Run.require (n ≤ dst.length)
  let front ← Run.part src 0 n
  return front ++ dst.drop n

/-- The data window with the payload of a reply, and the number of octets that were copied. -/
def decodeData (reply : Sg.Reply) (r : Request) (data : Option Bytes) :
    Run σ (Nat × Option Bytes) := do
  match r.direction, data with
  | .input, some dst =>
    let n := min dst.length reply.payload.length
    return (n, some (← copy n dst reply.payload))
  | _, _ => return (0, data)

/-- The sense window with the sense octets of a reply. -/
def decodeSense (reply : Sg.Reply) (sense : Option Bytes) : Run σ (Nat × Option Bytes) := do
  match sense with
  | some dst =>
    let src ← Run.part reply.header.sense.toList 0 reply.header.senseLength
    let n := min (min dst.length Sg.Header.maxSense) src.length
    return (n, some (← copy n dst src))
  | none => return (0, none)

def decode (reply : Sg.Reply) (r : Request) (w : Windows Bytes) :
    Run σ (Delivery × Windows Bytes) := do
  if reply.result ≠ 0 then return (⟨.failed, 0, 0, reply.result⟩, w)
  let (dataCopied, data) ← decodeData reply r w.data
  let (senseCopied, sense) ← decodeSense reply w.sense
  return (⟨.complete, dataCopied, senseCopied, reply.result⟩, ⟨data, sense⟩)

/-- Copies a reply into the windows of a request, which have to be apart. -/
def deliver (r : Request) (w : Windows Range) (reply : Sg.Reply) :
    Run σ (Except RequestError Delivery) := do
  let memory ← Run.memory
  let (data, sense) ← Run.expect (← ExceptT.mk (pure (memory.pair w.data w.sense)))
  if reply.result ≠ 0 then
    Run.report { level := .warn, source := .delivery, message := "reply header error"
                 fields := [("result", .int reply.result.toInt)] }
  let (delivery, filled) ← decode reply r ⟨data, sense⟩
  let memory ← ExceptT.mk (pure (memory.replaceOption w.data filled.data))
  let memory ← ExceptT.mk (pure (memory.replaceOption w.sense filled.sense))
  Run.setMemory memory
  if delivery.result ≠ 0 then return .error (.device delivery.result)
  return .ok delivery

def roundTrip (m : Manager σ) (handle : Handle) (r : Request) (w : Windows Range) :
    Run σ (Except RequestError Delivery) := do
  match r.message (← Manager.payload r w) with
  | .error e => return .error e
  | .ok message =>
    match ← exchange m handle.channel message message.replyLength with
    | .error e => return .error (.transfer e)
    | .ok reply => deliver r w reply

/-! ## Execution -/

/-- Writes the status fields of a request into its block, which has to have them. -/
def writeBack (r : Request) : Option Block → Run σ Unit
  | none => return ()
  | some block => do
    let octets ← Run.slice block.range
    Run.require (Srb.Exec.fixedLength ≤ octets.length)
    let octets ← Run.change octets Srb.statusOffset r.status.toByte
    let octets ← Run.change octets Srb.hostStatusOffset r.hostStatus
    let octets ← Run.change octets Srb.targetStatusOffset r.targetStatus
    Run.replace block.range octets

def settle (r : Request) (block : Option Block) (s : Status) : Run σ Request := do
  Run.reportAll (Manager.verdictEvents s)
  let r := r.settle s
  writeBack r block
  return r

def carryOut (m : Manager σ) (mode : AddressingMode) (r : Request) (block : Option Block)
    (w : Windows Range) (handle : Handle) : Run σ Request := do
  let r := { r with status := .pending }
  writeBack r block
  let outcome ← roundTrip m handle r w
  let r ← settle r block (Manager.outcomeStatus outcome)
  match outcome with
  | .ok d => Manager.dumpResult r w d
  | .error _ => pure ()
  notify m mode r block
  return r

def execute (m : Manager σ) (mode : AddressingMode) (r : Request) (block : Option Block) :
    Run σ Request := do
  match r.windows (← Run.memory) mode with
  | .error e =>
    Run.reportAll (Log.Dump.request r none)
    Run.report (Manager.event .warn "Rejected request" [("error", .text e.message)])
    settle r block e.status
  | .ok w =>
    Run.reportAll (Log.Dump.request r w.data)
    match ← m.acquire r.key with
    | .error e =>
      Run.report (Manager.event .error "Failed: could not open device. Device permissions !?"
        [("key", .text r.key.text), ("error", .text e.message)])
      settle r block e.status
    | .ok handle => carryOut m mode r block w handle

/-! ## Entry points -/

/-- The octets of a name in a field that has to have room for them. -/
def nameField (s : String) : Run σ (Vector UInt8 16) := do
  let octets := s.toUTF8.toList
  let name ← Run.part octets 0 (min octets.length 15)
  Run.require (name.length ≤ 16)
  return Bytes.field name 16 0

/-- The answer of an adapter in the caller's block. -/
def answer (a : Adapter) (q : Srb.AdapterInquiry) : Run σ Srb.AdapterInquiry := do
  let managerId ← nameField a.managerId
  let identifier ← nameField a.identifier
  return { q.answer a with managerId := managerId, identifier := identifier }

/-- Fills in a block that asks for the adapter, and has to parse once it was resolved. -/
def adapterInquiry (m : Manager σ) (mode : AddressingMode) (srb : FarPtr) : Run σ Status := do
  match (← Run.memory).resolve mode srb Srb.AdapterInquiry.length with
  | .error e =>
    Run.report (Manager.blockWarning "Bad HA_INQUIRY block" srb [("error", .text e.message)])
    return .invalid
  | .ok range =>
    let block ← Run.expect (Srb.AdapterInquiry.parse? (← Run.slice range))
    if block.signature = Srb.AdapterInquiry.extendedSignature then
      Run.report (Manager.event .trace "Extended request detected (not yet supported)" [])
    Run.replace range (← answer m.adapter block).encode
    return .complete

def rejectBlock (fixed : Range) : Run σ Status := do
  let octets ← Run.slice fixed
  Run.replace fixed (← Run.change octets Srb.statusOffset Status.invalid.toByte)
  return .invalid

/-- Executes the command of a block, whose fixed part has to parse once it was resolved, and whose
command block has to be in it. -/
def executeBlock (m : Manager σ) (mode : AddressingMode) (srb : FarPtr) : Run σ Status := do
  match (← Run.memory).resolve mode srb Srb.Exec.fixedLength with
  | .error e =>
    Run.report (Manager.blockWarning "Bad EXEC_SCSI_CMD block" srb [("error", .text e.message)])
    return .invalid
  | .ok fixed =>
    let header ← Run.expect (Srb.Exec.parse? (← Run.slice fixed))
    match (← Run.memory).resolve mode srb header.totalLength with
    | .error e =>
      Run.report (Manager.blockWarning "SRB tail out of reach" srb
        [("len", .int header.totalLength), ("error", .text e.message)])
      rejectBlock fixed
    | .ok range =>
      let cdb ← Run.part (← Run.slice range) Srb.Exec.fixedLength header.cdbLength.toNat
      let r ← execute m mode (header.toRequest srb cdb) (some ⟨srb, range⟩)
      return r.status

def dispatch (m : Manager σ) (mode : AddressingMode) (srb : FarPtr) (header : Srb.Header) :
    Run σ Status := do
  match Srb.Command.ofByte? header.command with
  | some .adapterInquiry => adapterInquiry m mode srb
  | some .execute => executeBlock m mode srb
  | some c =>
    Run.report (Manager.event .warn "Not implemented"
      [("command", .text c.label), ("ha_id", .int header.adapter.toNat)])
    return .invalid
  | none =>
    Run.report (Manager.event .warn "Unknown command"
      [("error", .text (Srb.Command.unknownMessage header.command))])
    return .invalid

/-- Runs the request block at an address, whose header has to parse once it was resolved. -/
def send (m : Manager σ) (mode : AddressingMode) (srb : FarPtr) : Run σ Status := do
  match (← Run.memory).resolve mode srb Srb.Header.length with
  | .error e =>
    Run.report (Manager.blockWarning "Bad SRB pointer" srb [("error", .text e.message)])
    return .invalid
  | .ok range =>
    dispatch m mode srb (← Run.expect (Srb.Header.parse? (← Run.slice range)))

def submit (m : Manager σ) (mode : AddressingMode) (r : Request) : Run σ Request :=
  execute m mode r none

def perform (m : Manager σ) (mode : AddressingMode) : Call → Run σ Status
  | .submit r => return (← submit m mode r).status
  | .send srb => send m mode srb

end Checked

end AspiManager
