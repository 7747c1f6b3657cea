import AspiManager.Log.Dump
import AspiManager.Manager.Acquire
import AspiManager.Manager.Exchange
import AspiManager.Manager.Posting
import AspiManager.Request.Delivery
import AspiManager.Request.Outbound
import AspiManager.Request.Settled
import AspiManager.Srb.Exec

/-!
# Execution of a request

The buffers are resolved first: a request that is malformed or has a buffer outside the memory is
rejected without any effect. Then the device is acquired, the request is made pending, one exchange
is done, the reply is delivered, the status is settled, and at last the post routine is called. The
status is written into the request block, if there is one, each time it changes.
-/

namespace AspiManager

namespace Request

/-- The windows into the caller's memory that a request needs: the data buffer if data moves, the
sense buffer if there is one. They may not share an octet. -/
def windows (r : Request) (memory : Memory) (mode : AddressingMode) :
    Except RequestError (Windows Range) := do
  r.checkCommand
  let data ← if r.direction.hasPayload && r.data.len != 0 then resolve r.data else pure none
  let sense ← if r.sense.len != 0 then resolve r.sense else pure none
  match data, sense with
  | some d, some s =>
    if d.overlaps s then .error (.malformed .overlappingBuffers) else .ok ⟨data, sense⟩
  | _, _ => .ok ⟨data, sense⟩
where
  /-- The range of a buffer. -/
  resolve (b : Buffer) : Except RequestError (Option Range) :=
    match memory.resolve mode b.ptr b.len.toNat with
    | .ok range => .ok (some range)
    | .error e => .error (.address e)

end Request

namespace Manager

variable {σ : Type}

/-- Writes the status fields of a request into its block. -/
def writeBack (r : Request) : Option Block → Run σ Unit
  | none => return ()
  | some block => do
    let octets ← Run.slice block.range
    if octets.length < Srb.Exec.fixedLength then return ()
    Run.replace block.range <|
      ((octets.set Srb.statusOffset r.status.toByte).set Srb.hostStatusOffset r.hostStatus).set
        Srb.targetStatusOffset r.targetStatus

/-- The events of a status that becomes final. -/
def verdictEvents : Status → List Log.Event
  | .complete => []
  | .busy => [{ level := .trace, source := .verdict, message := "Device busy" }]
  | s => [{ level := .warn, source := .verdict, message := "Failed",
            fields := [("status", .text s.text)] }]

/-- Makes a status final, in the request and in its block. -/
def settle (r : Request) (block : Option Block) (s : Status) : Run σ Request := do
  Run.reportAll (verdictEvents s)
  let r := r.settle s
  writeBack r block
  return r

/-- Copies a reply into the windows of a request. -/
def deliver (r : Request) (w : Windows Range) (reply : Sg.Reply) :
    Run σ (Except RequestError Delivery) := do
  let memory ← Run.memory
  match ← ExceptT.mk (pure (memory.pair w.data w.sense)) with
  | none => return .error (.malformed .overlappingBuffers)
  | some (data, sense) =>
    if reply.result ≠ 0 then
      Run.report { level := .warn, source := .delivery, message := "reply header error"
                   fields := [("result", .int reply.result.toInt)] }
    let (delivery, filled) := Delivery.deliver reply r ⟨data, sense⟩
    let memory ← ExceptT.mk (pure (memory.replaceOption w.data filled.data))
    let memory ← ExceptT.mk (pure (memory.replaceOption w.sense filled.sense))
    Run.setMemory memory
    if delivery.result ≠ 0 then return .error (.device delivery.result)
    return .ok delivery

/-- The octets of the data window, if they move to the device. -/
def payload (r : Request) (w : Windows Range) : Run σ Bytes :=
  match r.direction, w.data with
  | .output, some range => Run.slice range
  | _, _ => return []

/-- One exchange for a request, and the delivery of the reply. -/
def roundTrip (m : Manager σ) (handle : Handle) (r : Request) (w : Windows Range) :
    Run σ (Except RequestError Delivery) := do
  match r.message (← payload r w) with
  | .error e => return .error e
  | .ok message =>
    match ← m.exchange handle.channel message message.replyLength with
    | .error e => return .error (.transfer e)
    | .ok reply => deliver r w reply

/-- The status after an exchange. -/
def outcomeStatus : Except RequestError Delivery → Status
  | .ok d => d.status
  | .error e => e.status

/-- The octets that were put into a window. -/
def delivered (window : Option Range) (n : Nat) : Run σ Bytes :=
  match window with
  | some range => Run.slice (range.truncate n)
  | none => return []

/-- Dumps what an exchange delivered. -/
def dumpResult (r : Request) (w : Windows Range) (d : Delivery) : Run σ Unit := do
  let data ← delivered w.data d.dataCopied
  let sense ← delivered w.sense d.senseCopied
  Run.reportAll (Log.Dump.result r data sense)

/-- An event of the manager itself. -/
def event (level : Log.Level) (message : String) (fields : List (String × Log.Value)) :
    Log.Event :=
  { level := level, source := .manager, message := message, fields := fields }

/-- Calls the post routine of a request that was carried out. -/
def notify (m : Manager σ) (mode : AddressingMode) (r : Request) (block : Option Block) :
    Run σ Unit := do
  match ← m.post mode r block with
  | .ok _ => return ()
  | .error e =>
    Run.report (event .warn "Post routine not called"
      [("post_proc", .text (Record.optional (r.postProc.map FarPtr.text))),
        ("error", .text e.message)])

/-- Carries out a request whose windows are resolved and whose device is open. -/
def carryOut (m : Manager σ) (mode : AddressingMode) (r : Request) (block : Option Block)
    (w : Windows Range) (handle : Handle) : Run σ Request := do
  let r := { r with status := .pending }
  writeBack r block
  let outcome ← m.roundTrip handle r w
  let r ← settle r block (outcomeStatus outcome)
  match outcome with
  | .ok d => dumpResult r w d
  | .error _ => pure ()
  m.notify mode r block
  return r

/-- Executes a request, with the block it came from, if any. Gives the settled request. -/
def execute (m : Manager σ) (mode : AddressingMode) (r : Request) (block : Option Block) :
    Run σ Request := do
  match r.windows (← Run.memory) mode with
  | .error e =>
    Run.reportAll (Log.Dump.request r none)
    Run.report (event .warn "Rejected request" [("error", .text e.message)])
    settle r block e.status
  | .ok w =>
    Run.reportAll (Log.Dump.request r w.data)
    match ← m.acquire r.key with
    | .error e =>
      Run.report (event .error "Failed: could not open device. Device permissions !?"
        [("key", .text r.key.text), ("error", .text e.message)])
      settle r block e.status
    | .ok handle => m.carryOut mode r block w handle

end Manager

end AspiManager
