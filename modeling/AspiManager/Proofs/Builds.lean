import AspiManager.Proofs.Call
import AspiManager.Proofs.Overflow

/-!
# A manager in machine words

A manager resolves pointers with exact numbers. Here is the same manager with `Machine.resolve` in
the place of `Memory.resolve`, so that a sum behind an address that does not fit into its word
breaks a checked build down, and loses its high bits in a release build. These sums are the only ones
in which the two can differ: all others are bounded by what goes into them (`Memory.bounded`).

Both builds run every call as the manager does, unless a pointer overshoots (`Machine.perform_eq`),
so that what is proved of its calls is true of both. No pointer overshoots in real mode
(`Memory.addressable_real`), and none in protected mode if the memory and the bases of its
descriptors stay below the last segment of words (`Memory.Low`), as they then also do when a post
routine is called (`Memory.Low.tell`). Where the pointer to a block does overshoot, a checked build
breaks down, and the manager answers that the block is invalid (`Machine.perform_of_overshoots`).
-/

namespace AspiManager

/-! ## Memories in which every address is a word -/

/-- No pointer overshoots, and the size of the memory is a word. -/
structure Memory.Addressable (m : Memory) (mode : AddressingMode) : Prop where
  size_lt : m.size < Machine.wordLimit
  not_overshoots : ∀ p len, ¬ m.Overshoots mode p len

/-- The memory and the bases of its descriptors stay below the last segment of words, so that no
offset leads out of a word. -/
structure Memory.Low (m : Memory) : Prop where
  size_lt : m.size + 0xFFFF < Machine.wordLimit
  base_lt : ∀ i d, m.table.descriptor? i = some d → d.base + 0xFFFF < Machine.wordLimit

namespace Memory

variable {m n : Memory} {mode : AddressingMode}

theorem addressable_real (hs : m.size < Machine.wordLimit) : m.Addressable .realMode :=
  ⟨hs, fun _ _ h => nomatch h.1⟩

/-- Which pointers overshoot is decided by the descriptors. -/
theorem Addressable.of_eq (h : m.Addressable mode) (hs : n.size = m.size)
    (ht : n.table = m.table) : n.Addressable mode := by
  refine ⟨hs ▸ h.size_lt, fun p len ho => h.not_overshoots p len ?_⟩
  unfold Overshoots descriptor at ho ⊢
  rwa [← ht]

theorem Low.addressable (h : m.Low) (mode : AddressingMode) : m.Addressable mode := by
  have hsize := h.size_lt
  refine ⟨by omega, ?_⟩
  rintro p len ⟨-, d, hp, -, hsum⟩
  have hoffset := p.offset.toNat_lt
  have hbase := h.base_lt _ d (descriptor_eq_ok_iff.mp hp).2
  omega

/-- A selector for octets of the memory leaves it low. -/
theorem Low.alloc (h : m.Low) {base len : Nat} {s : UInt16} {t : DescriptorTable}
    (hb : base ≤ m.size) (ha : m.table.alloc base len = some (s, t)) :
    Low { m with table := t } := by
  refine ⟨h.size_lt, fun i d hd => ?_⟩
  obtain ⟨k, hk, -, rfl⟩ := DescriptorTable.alloc_eq_some ha
  rw [DescriptorTable.descriptor?_put (DescriptorTable.freeSlot?_eq_some hk).2.1] at hd
  split at hd
  · cases hd
    have hsize := h.size_lt
    unfold DescriptorTable.segment
    dsimp only
    omega
  · exact h.base_lt i d hd

/-- The memory that a post routine is called with is low, whichever mode its calls then use. -/
theorem Low.tell (h : m.Low) {block : Option Block} (hb : ∀ k, block = some k → k.Fits m)
    {arg : PostArgument} (ht : m.tell mode block = .ok (arg, n)) : n.Low := by
  cases block with
  | none =>
    cases ht
    exact h
  | some k =>
    cases mode with
    | protectedMode =>
      cases ht
      exact h
    | realMode =>
      rw [tell_real] at ht
      split at ht
      · rename_i ha
        cases ht
        exact h.alloc (Nat.le_trans (Nat.le_add_right ..) (hb k rfl).2) ha
      · cases ht

end Memory

namespace Machine

variable {σ : Type}

/-! ## The manager -/

/-- The range that a pointer names in the memory of the run. -/
def locate (b : Build) (mode : AddressingMode) (ptr : FarPtr) (len : Nat) :
    Run σ (Except AddressError Range) := do
  ExceptT.mk (pure (resolve b (← Run.memory) mode ptr len))

/-- The range of a buffer, if it is needed. -/
def bufferRange (b : Build) (mode : AddressingMode) (needed : Bool) (buffer : Buffer) :
    Run σ (Except RequestError (Option Range)) := do
  if needed then
    match ← locate b mode buffer.ptr buffer.len.toNat with
    | .error e => return .error (.address e)
    | .ok range => return .ok (some range)
  else return .ok none

/-- The windows of a request. -/
def windows (b : Build) (mode : AddressingMode) (r : Request) :
    Run σ (Except RequestError (Windows Range)) := do
  match r.checkCommand with
  | .error e => return .error e
  | .ok () =>
    match ← bufferRange b mode (r.direction.hasPayload && r.data.len != 0) r.data with
    | .error e => return .error e
    | .ok data =>
      match ← bufferRange b mode (r.sense.len != 0) r.sense with
      | .error e => return .error e
      | .ok sense => return Request.together data sense

def post (b : Build) (m : Manager σ) (mode : AddressingMode) (r : Request)
    (block : Option Block) : Run σ (Except PostError Bool) := do
  match Manager.postEntry? r with
  | none => return .ok false
  | some ptr =>
    match ← locate b mode ptr 1 with
    | .error e => return .error (.address e)
    | .ok range =>
      match (← get).routines.find? range.base with
      | none => return .error (.unknownEntry range.base)
      | some routine =>
        Run.report
          { level := .trace, source := .posting, message := "Post Routine called"
            fields := [("post_proc", .text ptr.text), ("entry", .int range.base)] }
        match block with
        | none =>
          m.call range.base routine ⟨.null, r⟩
          return .ok true
        | some block =>
          return (← m.callWithBlock mode range.base routine r block).map fun _ => true

def notify (b : Build) (m : Manager σ) (mode : AddressingMode) (r : Request)
    (block : Option Block) : Run σ Unit := do
  match ← post b m mode r block with
  | .ok _ => return ()
  | .error e =>
    Run.report (Manager.event .warn "Post routine not called"
      [("post_proc", .text (Record.optional (r.postProc.map FarPtr.text))),
        ("error", .text e.message)])

def carryOut (b : Build) (m : Manager σ) (mode : AddressingMode) (r : Request)
    (block : Option Block) (w : Windows Range) (handle : Handle) : Run σ Request := do
  let r := { r with status := .pending }
  Manager.writeBack r block
  let outcome ← m.roundTrip handle r w
  let r ← Manager.settle r block (Manager.outcomeStatus outcome)
  match outcome with
  | .ok d => Manager.dumpResult r w d
  | .error _ => pure ()
  notify b m mode r block
  return r

def execute (b : Build) (m : Manager σ) (mode : AddressingMode) (r : Request)
    (block : Option Block) : Run σ Request := do
  match ← windows b mode r with
  | .error e =>
    Run.reportAll (Log.Dump.request r none)
    Run.report (Manager.event .warn "Rejected request" [("error", .text e.message)])
    Manager.settle r block e.status
  | .ok w =>
    Run.reportAll (Log.Dump.request r w.data)
    match ← m.acquire r.key with
    | .error e =>
      Run.report (Manager.event .error "Failed: could not open device. Device permissions !?"
        [("key", .text r.key.text), ("error", .text e.message)])
      Manager.settle r block e.status
    | .ok handle => carryOut b m mode r block w handle

def adapterInquiry (b : Build) (m : Manager σ) (mode : AddressingMode) (srb : FarPtr) :
    Run σ Status := do
  match ← locate b mode srb Srb.AdapterInquiry.length with
  | .error e =>
    Run.report (Manager.blockWarning "Bad HA_INQUIRY block" srb [("error", .text e.message)])
    return .invalid
  | .ok range =>
    match Srb.AdapterInquiry.parse? (← Run.slice range) with
    | none => return .invalid
    | some block =>
      if block.signature = Srb.AdapterInquiry.extendedSignature then
        Run.report (Manager.event .trace "Extended request detected (not yet supported)" [])
      Run.replace range (block.answer m.adapter).encode
      return .complete

def executeBlock (b : Build) (m : Manager σ) (mode : AddressingMode) (srb : FarPtr) :
    Run σ Status := do
  match ← locate b mode srb Srb.Exec.fixedLength with
  | .error e =>
    Run.report (Manager.blockWarning "Bad EXEC_SCSI_CMD block" srb [("error", .text e.message)])
    return .invalid
  | .ok fixed =>
    match Srb.Exec.parse? (← Run.slice fixed) with
    | none => return .invalid
    | some header =>
      match ← locate b mode srb header.totalLength with
      | .error e =>
        Run.report (Manager.blockWarning "SRB tail out of reach" srb
          [("len", .int header.totalLength), ("error", .text e.message)])
        Manager.rejectBlock fixed
      | .ok range =>
        let octets ← Run.slice range
        let cdb := (octets.drop Srb.Exec.fixedLength).take header.cdbLength.toNat
        let r ← execute b m mode (header.toRequest srb cdb) (some ⟨srb, range⟩)
        return r.status

def dispatch (b : Build) (m : Manager σ) (mode : AddressingMode) (srb : FarPtr)
    (header : Srb.Header) : Run σ Status := do
  match Srb.Command.ofByte? header.command with
  | some .adapterInquiry => adapterInquiry b m mode srb
  | some .execute => executeBlock b m mode srb
  | some c =>
    Run.report (Manager.event .warn "Not implemented"
      [("command", .text c.label), ("ha_id", .int header.adapter.toNat)])
    return .invalid
  | none =>
    Run.report (Manager.event .warn "Unknown command"
      [("error", .text (Srb.Command.unknownMessage header.command))])
    return .invalid

def send (b : Build) (m : Manager σ) (mode : AddressingMode) (srb : FarPtr) : Run σ Status := do
  match ← locate b mode srb Srb.Header.length with
  | .error e =>
    Run.report (Manager.blockWarning "Bad SRB pointer" srb [("error", .text e.message)])
    return .invalid
  | .ok range =>
    match Srb.Header.parse? (← Run.slice range) with
    | none => return .invalid
    | some header => dispatch b m mode srb header

def perform (b : Build) (m : Manager σ) (mode : AddressingMode) : Call → Run σ Status
  | .submit r => return (← execute b m mode r none).status
  | .send srb => send b m mode srb

/-! ## Both builds -/

variable {s : State σ} {mode : AddressingMode} {ptr : FarPtr} {len : Nat} {r : Request}
  {block : Option Block} {w : Windows Range}

theorem locate_exec (h : s.memory.Addressable mode) (b : Build) (ptr : FarPtr)
    (hl : len < 2 ^ 32) :
    (locate b mode ptr len).exec s = (.ok (s.memory.resolve mode ptr len), s) := by
  rw [locate, Run.exec_bind_ok (Run.exec_memory s), Run.exec_lift,
    resolve_eq h.size_lt hl (h.not_overshoots ptr len)]

theorem bufferRange_exec (h : s.memory.Addressable mode) (b : Build) (needed : Bool)
    (buffer : Buffer) :
    (bufferRange b mode needed buffer).exec s =
      (.ok (Request.window s.memory mode buffer needed), s) := by
  cases needed with
  | false => rfl
  | true =>
    unfold bufferRange Request.window Request.windows.resolve
    rw [if_pos rfl, if_pos rfl, Run.exec_bind_ok (locate_exec h b buffer.ptr buffer.len.toNat_lt)]
    cases s.memory.resolve mode buffer.ptr buffer.len.toNat <;> rfl

theorem windows_exec (h : s.memory.Addressable mode) (b : Build) (r : Request) :
    (windows b mode r).exec s = (.ok (r.windows s.memory mode), s) := by
  rw [Request.windows_eq]
  unfold windows
  cases r.checkCommand with
  | error e => rfl
  | ok _ =>
    dsimp only
    rw [Run.exec_bind_ok (bufferRange_exec h b ..)]
    cases Request.window s.memory mode r.data (r.direction.hasPayload && r.data.len != 0) with
    | error e => rfl
    | ok data =>
      dsimp only
      rw [Run.exec_bind_ok (bufferRange_exec h b ..)]
      cases Request.window s.memory mode r.sense (r.sense.len != 0) <;> rfl

theorem post_exec (h : s.memory.Addressable mode) (b : Build) (m : Manager σ) (r : Request)
    (block : Option Block) : (post b m mode r block).exec s = (m.post mode r block).exec s := by
  unfold post Manager.post
  cases Manager.postEntry? r with
  | none => rfl
  | some ptr =>
    dsimp only
    rw [Run.exec_bind_ok (locate_exec h b ptr (by decide))]
    rfl

theorem notify_exec (h : s.memory.Addressable mode) (b : Build) (m : Manager σ) (r : Request)
    (block : Option Block) : (notify b m mode r block).exec s = (m.notify mode r block).exec s :=
  Run.exec_bind_congr (post_exec h b m r block) fun _ _ _ => rfl

theorem carryOut_exec (b : Build) (m : Manager σ) (handle : Handle)
    (h : s.memory.Addressable mode) (hb : ∀ k, block = some k → k.Fits s.memory)
    (hc : r.checkCommand = .ok ()) (hw : w.Sound s.memory) :
    (carryOut b m mode r block w handle).exec s = (m.carryOut mode r block w handle).exec s := by
  let p : Request := { r with status := .pending }
  let trip := m.trip handle.channel p w (s.memory.stamp p block) s.world
  have hsize : trip.memory.size = s.memory.size :=
    (Manager.size_trip ..).trans (Memory.size_stamp ..)
  have htable : trip.memory.table = s.memory.table :=
    (Manager.table_trip ..).trans (Memory.table_stamp ..)
  unfold carryOut Manager.carryOut
  dsimp only
  -- The two differ in the last step, before which only octets of the memory are changed.
  refine Run.exec_bind_congr rfl fun _ t ht => ?_
  cases (Manager.writeBack_exec hb _).symm.trans ht
  refine Run.exec_bind_congr rfl fun outcome t ht => ?_
  obtain ⟨es, o, hx, -⟩ := m.roundTrip_exec handle (r := p) hc (s := s.stamped p block)
    (hw.of_size (Memory.size_stamp ..))
  cases hx.symm.trans ht
  refine Run.exec_bind_congr rfl fun settled t ht => ?_
  have hset := Manager.settle_exec block (s := (s.stamped p block).travelled trip es)
    (fun k hk => (hb k hk).of_size hsize) p (Manager.outcomeStatus outcome)
  cases hset.symm.trans ht
  have hlast : ∀ q, ((trip.memory.stamp q block).Addressable mode) := fun _ =>
    h.of_eq ((Memory.size_stamp ..).trans hsize) ((Memory.table_stamp ..).trans htable)
  cases outcome with
  | error e => exact Run.exec_bind_congr (notify_exec (hlast _) b m _ block) fun _ _ _ => rfl
  | ok d =>
    refine Run.exec_bind_congr rfl fun _ t ht => ?_
    have hdump := Manager.dumpResult_exec
      (s := { (s.stamped p block).travelled trip es with
        events := es ++ Manager.verdictEvents d.status }.stamped (p.settle d.status) block)
      (hw.of_size ((Memory.size_stamp ..).trans hsize)) (p.settle d.status) d
    cases hdump.symm.trans ht
    exact Run.exec_bind_congr (notify_exec (hlast _) b m _ block) fun _ _ _ => rfl

theorem execute_exec (b : Build) (m : Manager σ) (h : s.memory.Addressable mode)
    (hb : ∀ k, block = some k → k.Fits s.memory) (r : Request) :
    (execute b m mode r block).exec s = (m.execute mode r block).exec s := by
  unfold execute Manager.execute
  rw [Run.exec_bind_ok (windows_exec h b r), Run.exec_bind_ok (Run.exec_memory s)]
  cases hw : r.windows s.memory mode with
  | error e => rfl
  | ok w =>
    have hf := Request.windows_ok_iff.mp hw
    refine Run.exec_bind_congr rfl fun _ t ht => ?_
    cases ht
    refine Run.exec_bind_congr rfl fun outcome t ht => ?_
    obtain ⟨es, hx⟩ := m.acquire_exec r.key
      { s with events := s.events ++ Log.Dump.request r w.data }
    cases hx.symm.trans ht
    generalize m.acquisition r.key s.registry s.world = a
    rcases a with ⟨e | handle, g, world, effects⟩
    · rfl
    · exact carryOut_exec b m handle h hb (Request.checkCommand_ok_iff.mpr hf.command) hf.sound

theorem adapterInquiry_exec (h : s.memory.Addressable mode) (b : Build) (m : Manager σ)
    (srb : FarPtr) :
    (adapterInquiry b m mode srb).exec s = (m.adapterInquiry mode srb).exec s := by
  unfold adapterInquiry Manager.adapterInquiry
  rw [Run.exec_bind_ok (locate_exec h b srb (by decide))]
  rfl

theorem executeBlock_exec (h : s.memory.Addressable mode) (b : Build) (m : Manager σ)
    (srb : FarPtr) :
    (executeBlock b m mode srb).exec s = (m.executeBlock mode srb).exec s := by
  unfold executeBlock Manager.executeBlock
  rw [Run.exec_bind_ok (locate_exec h b srb (by decide)), Run.exec_bind_ok (Run.exec_memory s)]
  cases hfixed : s.memory.resolve mode srb Srb.Exec.fixedLength with
  | error e => rfl
  | ok fixed =>
    refine Run.slice_bind_congr (Memory.resolve_stop_le hfixed) ?_
    cases Srb.Exec.parse? (s.memory.read fixed.base fixed.len) with
    | none => rfl
    | some header =>
      have hl : header.totalLength < 2 ^ 32 := by
        have := header.cdbLength.toNat_lt
        have := header.senseLength.toNat_lt
        unfold Srb.Exec.totalLength Srb.Exec.fixedLength
        omega
      dsimp only
      rw [Run.exec_bind_ok (locate_exec h b srb hl), Run.exec_bind_ok (Run.exec_memory s)]
      cases hrange : s.memory.resolve mode srb header.totalLength with
      | error e => rfl
      | ok range =>
        have hstop := Memory.resolve_stop_le hrange
        refine Run.slice_bind_congr hstop ?_
        refine Run.exec_bind_congr (execute_exec b m h ?_ _) fun _ _ _ => rfl
        rintro k hk
        cases hk
        exact ⟨Memory.resolve_len hrange ▸ header.fixedLength_le, hstop⟩

theorem dispatch_exec (h : s.memory.Addressable mode) (b : Build) (m : Manager σ) (srb : FarPtr)
    (header : Srb.Header) :
    (dispatch b m mode srb header).exec s = (m.dispatch mode srb header).exec s := by
  unfold dispatch Manager.dispatch
  cases Srb.Command.ofByte? header.command with
  | none => rfl
  | some c =>
    cases c with
    | adapterInquiry => exact adapterInquiry_exec h b m srb
    | execute => exact executeBlock_exec h b m srb
    | _ => rfl

theorem send_exec (h : s.memory.Addressable mode) (b : Build) (m : Manager σ) (srb : FarPtr) :
    (send b m mode srb).exec s = (m.send mode srb).exec s := by
  unfold send Manager.send
  rw [Run.exec_bind_ok (locate_exec h b srb (by decide)), Run.exec_bind_ok (Run.exec_memory s)]
  cases hfront : s.memory.resolve mode srb Srb.Header.length with
  | error e => rfl
  | ok front =>
    refine Run.slice_bind_congr (Memory.resolve_stop_le hfront) ?_
    cases Srb.Header.parse? (s.memory.read front.base front.len) with
    | none => rfl
    | some header => exact dispatch_exec h b m srb header

/-- In both builds a call does what it does with exact numbers, if no pointer overshoots. -/
theorem perform_eq (h : s.memory.Addressable mode) (b : Build) (m : Manager σ) (call : Call) :
    (perform b m mode call).exec s = (m.perform mode call).exec s := by
  cases call with
  | send srb => exact send_exec h b m srb
  | submit r =>
    have hb : ∀ k, (none : Option Block) = some k → k.Fits s.memory := by simp
    exact Run.exec_bind_congr (execute_exec b m h hb r) fun _ _ _ => rfl

/-- A block whose pointer overshoots breaks a checked build down. With exact numbers it is invalid,
and nothing else happens. -/
theorem perform_of_overshoots (hs : s.memory.size < wordLimit)
    (ho : s.memory.Overshoots mode ptr Srb.Header.length) (m : Manager σ) :
    (perform .checked m mode (.send ptr)).exec s = (.error .overflow, s) ∧
      ∃ es, (m.perform mode (.send ptr)).exec s = (.ok .invalid, { s with events := es }) := by
  obtain ⟨hexact, hchecked, -⟩ := resolve_of_overshoots hs (by decide) ho
  have hlocate : (locate .checked mode ptr Srb.Header.length).exec s = (.error .overflow, s) := by
    rw [locate, Run.exec_bind_ok (Run.exec_memory s), Run.exec_lift, hchecked]
  refine ⟨Run.exec_bind_error hlocate _, ?_⟩
  · unfold Manager.perform Manager.send
    dsimp only
    rw [Run.exec_bind_ok (Run.exec_memory s), hexact]
    exact ⟨_, rfl⟩

end Machine

end AspiManager
