import AspiManager.Proofs.AdapterBlock
import AspiManager.Proofs.Agreement
import AspiManager.Proofs.Caller
import AspiManager.Proofs.Failure

/-!
# What a probe comes to

A probe is answered with octets, or fails with a status. Which of the two it is, and what passes
between the host and the probe, is a function of the device and of the host's state
(`Probe.answering`), and in it the mode of the caller does not occur. `Probe.inquire_exec` says that
every probe reports what its answering says.
-/

namespace AspiManager

/-! ## What is left of an execution -/

namespace Manager

variable {σ : Type} {m : Manager σ} {mode : AddressingMode} {r : Request} {block : Option Block}
  {s : State σ}

/-- An execution that does not succeed leaves nothing but the status of its block. -/
theorem execution_memory_of_ne (hb : ∀ b, block = some b → b.Fits s.memory) {st : Status}
    (h : (m.execution mode r block s).outcome = .ok st) (hst : st ≠ .complete) :
    (m.execution mode r block s).memory = s.memory.stamp (r.settle st) block := by
  have hway := m.execution_way mode r block s
  generalize m.execution mode r block s = x at h hway ⊢
  cases hway with
  | rejected | unavailable =>
    cases h
    rfl
  | crashed => cases h
  | settled hw hd hj =>
    cases h
    have hm := trip_memory_of_ne hj hst
    exact (congrArg (Memory.stamp · _ block) hm).trans (Memory.stamp_stamp hb ..)

end Manager

namespace Probe

variable {σ : Type}

/-! ## The answering of a device -/

/-- What an INQUIRY comes to: the octets of the answer, or the status if there are none. -/
structure Answering (σ : Type) where
  outcome : Except Fault (Except Status Bytes)
  world : σ
  effects : List Effect

/-- The message with which a device is asked. -/
def Options.message (o : Options) : Bytes :=
  (Sg.Message.announce (36 + o.allocation.toNat)).encode ++ o.command

/-- The octets of an answer that is whole, or the status that stands for what went wrong. -/
def judge : Except TransferError Bytes → Except Status Bytes
  | .error e => .error (if e.isBusy then .busy else .failed)
  | .ok raw => if raw.int32 12 = 0 then .ok (raw.drop 36) else .error .failed

/-- What the INQUIRY of a probe comes to, by a manager that has opened nothing yet. -/
def answering (m : Manager σ) (o : Options) (world : σ) : Answering σ :=
  let a := m.acquisition o.device {} world
  match a.outcome with
  | .error _ => ⟨.ok (.error .failed), a.world, a.effects⟩
  | .ok handle =>
    let c := m.host.converse handle.channel o.message (36 + o.allocation.toNat) a.world
    ⟨c.outcome.map judge, c.world, a.effects ++ c.effects⟩

/-- The line about the adapter. -/
def adapterShown (a : Adapter) : String := adapterLine (({} : Srb.AdapterInquiry).answer a) .complete

/-- The report on the outcome of an INQUIRY. -/
def outcomeReport (o : Options) : Except Status Bytes → Report
  | .ok answer => answerReport o answer
  | .error st => ⟨[], some (.status o.device st)⟩

/-! ## The adapter -/

variable {m : Manager σ} {mode : AddressingMode} {o : Options} {l : Layout} {s : State σ}

theorem place_exec (base : Nat) (octets : Bytes) (s : State σ) :
    (place base octets).exec s = (.ok (), { s with memory := s.memory.put base octets }) := rfl

/-- The adapter is always shown, and asking for it touches nothing but the memory. -/
theorem askAdapter_exec (m : Manager σ) (h : LaidOut mode l s.memory) :
    ∃ memory, (askAdapter m mode l.block).exec s =
        (.ok (adapterShown m.adapter), { s with memory := memory }) ∧ LaidOut mode l memory := by
  have hend : blockBase + Srb.AdapterInquiry.length ≤ s.memory.size := by
    rw [h.size]
    decide
  have hread : ∀ (q : Srb.AdapterInquiry) (n : Memory), n.size = s.memory.size →
      (n.put blockBase q.encode).read blockBase Srb.AdapterInquiry.length = q.encode := by
    intro q n hn
    rw [Memory.read_put (hn ▸ hend) (Nat.le_of_eq q.length_encode.symm), ← q.length_encode,
      List.take_length]
  let asked : State σ :=
    { s with memory := s.memory.put blockBase ({} : Srb.AdapterInquiry).encode }
  have hasked : LaidOut mode l asked.memory :=
    h.of_frame (Memory.size_put ..) (Memory.table_put ..)
  have hx := m.send_adapterInquiry (s := asked)
    (hasked.block Srb.AdapterInquiry.length (by decide)) (hread {} s.memory rfl) rfl
  refine ⟨asked.memory.put blockBase (({} : Srb.AdapterInquiry).answer m.adapter).encode, ?_,
    hasked.of_frame (Memory.size_put ..) (Memory.table_put ..)⟩
  unfold askAdapter
  rw [Run.exec_bind_ok (place_exec ..), Run.exec_bind_ok hx, Run.exec_bind_ok (Run.exec_memory _)]
  dsimp only
  rw [hread _ asked.memory rfl, Srb.AdapterInquiry.parse?_encode]
  rfl

/-! ## The device -/

/-- The block of a probe. -/
def blockOf (l : Layout) : Block := ⟨l.block, blockRange⟩

/-- The status octets are in the fixed part of the block. -/
theorem not_showsStatus {a : Nat} (ha : blockBase + 26 ≤ a) :
    ∀ b, some (blockOf l) = some b → ¬ b.ShowsStatus a := by
  rintro b ⟨⟩
  unfold Block.ShowsStatus blockOf blockRange Srb.statusOffset Srb.hostStatusOffset
    Srb.targetStatusOffset
  dsimp only
  omega

theorem LaidOut.blockOf_fits {n : Memory} (h : LaidOut mode l n) (o : Options) :
    ∀ b, some (blockOf l) = some b → b.Fits (n.put blockBase (draft o l.data).build) := by
  rintro b ⟨⟩
  exact (h.blockAt o).fits

/-- The status of an INQUIRY. -/
def statusOf : Except Status Bytes → Status
  | .ok _ => .complete
  | .error st => st

/-- A status stands for no answer only if it is not success, and an answer is the right one. -/
def Settles (right : Bytes → Prop) : Except Fault (Except Status Bytes) → Prop
  | .error _ => True
  | .ok (.error st) => st ≠ .complete
  | .ok (.ok answer) => right answer

theorem request_expectedReply (o : Options) (l : Layout) :
    (request o l).expectedReply = 36 + o.allocation.toNat := by
  rw [Manager.expectedReply_eq, if_pos (request_direction o l), request_length]

theorem request_outbound (o : Options) (l : Layout) (n : Memory) (w : Windows Range) :
    (request o l).outbound n w = o.message := by
  have hpayload : n.payload (request o l) w = [] := by
    unfold Memory.payload
    rw [request_direction]
  unfold Request.outbound Options.message
  rw [hpayload, request_expectedReply, List.append_nil]
  rfl

theorem not_tooLong_request (o : Options) (l : Layout) : ¬ (request o l).TooLong := by
  have := o.allocation.toNat_lt
  rw [Request.tooLong_iff, request_length]
  omega

/-- What the host and the probe say to each other comes to the answering. Only an answer changes the
memory, by what follows the header of its reply. -/
theorem trip_request (m : Manager σ) (channel : Nat) (o : Options) (l : Layout)
    (w : Windows Range) (n : Memory) (world : σ) :
    let c := m.host.converse channel o.message (36 + o.allocation.toNat) world
    let t := m.trip channel (request o l) w n world
    t.outcome = (c.outcome.map judge).map statusOf ∧ t.world = c.world ∧ t.effects = c.effects ∧
      Settles (fun answer => ∃ raw, raw.drop 36 = answer ∧ raw.length = 36 + o.allocation.toNat ∧
        t.memory = n.fill w (Sg.inbound (request o l) raw) (Sg.Header.ofOctets raw).validSense)
        (c.outcome.map judge) := by
  unfold Manager.trip
  rw [if_neg (not_tooLong_request o l), request_outbound, request_expectedReply]
  dsimp only
  have hlength : ∀ raw, (m.host.converse channel o.message (36 + o.allocation.toNat) world).outcome =
      .ok (.ok raw) → raw.length = 36 + o.allocation.toNat := by
    intro raw hc
    obtain ⟨-, bs, -, -, -, rfl⟩ := Host.answers_of_converse hc
    exact Bytes.length_fit _ _
  generalize m.host.converse channel o.message (36 + o.allocation.toNat) world = c at hlength
  obtain ⟨outcome, world', effects⟩ := c
  rcases outcome with f | e | raw
  · exact ⟨rfl, rfl, rfl, trivial⟩
  · have hne : (if e.isBusy then Status.busy else .failed) ≠ .complete := by
      cases e.isBusy <;> decide
    exact ⟨rfl, rfl, rfl, hne⟩
  · dsimp only [Except.map, judge] at hlength ⊢
    by_cases hr : raw.int32 12 = 0
    · rw [if_pos hr, if_pos hr]
      exact ⟨rfl, rfl, rfl, raw, rfl, hlength raw rfl, rfl⟩
    · rw [if_neg hr, if_neg hr]
      exact ⟨rfl, rfl, rfl, show Status.failed ≠ .complete by decide⟩

/-- After a success the answer is in the data area. -/
theorem read_of_completed {before after : Memory} {raw : Bytes}
    (h : Completed before after (request o l) (some (blockOf l)) (windows o) raw)
    (hraw : raw.length = 36 + o.allocation.toNat) (hs : after.size = memorySize) :
    after.read dataBase o.allocation.toNat = raw.drop 36 := by
  have halloc := o.allocation.toNat_lt
  have hsize : memorySize = 0x100000 := rfl
  have hbase : dataBase = 0x20000 := rfl
  refine Bytes.ext_octet ?_ fun i hi => ?_
  · rw [Memory.length_read, hs, List.length_drop]
    omega
  · rw [Memory.length_read] at hi
    have hpos : 0 < o.allocation.toNat := by omega
    obtain ⟨-, -, hoctet⟩ := h.data (request_direction o l) ⟨dataBase, o.allocation.toNat⟩
      (if_pos hpos)
    rw [Memory.octet_read, if_pos (by omega), Bytes.octet_drop]
    have hbehind : blockBase + 26 ≤ dataBase + i := by
      unfold blockBase
      omega
    exact hoctet i (by dsimp only; omega) (not_showsStatus hbehind)

variable {n : Memory}

/-- The sense window has no octet of the block that shows a status. -/
theorem sense_not_showsStatus {q : Range} (hq : (windows o).sense = some q) {a : Nat}
    (ha : q.Contains a) : ∀ b, some (blockOf l) = some b → ¬ b.ShowsStatus a := by
  cases hq
  exact not_showsStatus (Nat.le_trans (by dsimp only; omega) ha.1)

/-- A reply that is whole is in the data area when the request is settled. -/
theorem read_reply (h : LaidOut mode l n) {raw : Bytes}
    (hraw : raw.length = 36 + o.allocation.toNat) :
    ((((n.put blockBase (draft o l.data).build).stamp { request o l with status := .pending }
      (some (blockOf l))).fill (windows o) (Sg.inbound (request o l) raw)
        (Sg.Header.ofOctets raw).validSense).stamp ((request o l).settle .complete)
          (some (blockOf l))).read dataBase o.allocation.toNat = raw.drop 36 := by
  have hlength : raw.length = (request o l).expectedReply :=
    hraw.trans (request_expectedReply o l).symm
  have hcompleted := completed { request o l with status := .pending } (h.blockOf_fits o)
    (h.fits o) hlength fun q hq a ha => sense_not_showsStatus hq ha
  exact read_of_completed hcompleted hraw
    (hcompleted.size.trans ((Memory.size_put ..).trans h.size))

/-- The execution of the INQUIRY comes to the answering, and leaves the answer in the data area. -/
theorem execution_answering (m : Manager σ) (o : Options) (h : LaidOut mode l n)
    (hm : s.memory = n.put blockBase (draft o l.data).build) (hg : s.registry = {}) :
    let x := m.execution mode (request o l) (some (blockOf l)) s
    let a := answering m o s.world
    x.outcome = a.outcome.map statusOf ∧ x.world = a.world ∧ x.effects = a.effects ∧
      Settles (fun answer => x.memory.read dataBase o.allocation.toNat = answer) a.outcome := by
  have hfits : (request o l).Fits s.memory mode (windows o) := hm ▸ h.fits o
  unfold Manager.execution answering Manager.journey
  rw [Request.windows_ok_iff.mpr hfits, request_key, hg]
  dsimp only
  cases ha : (m.acquisition o.device {} s.world).outcome with
  | error e => exact ⟨rfl, rfl, rfl, show Status.failed ≠ .complete by decide⟩
  | ok handle =>
    dsimp only
    obtain ⟨hout, hworld, heff, hsettles⟩ := trip_request m handle.channel o l (windows o)
      (s.memory.stamp { request o l with status := .pending } (some (blockOf l)))
      (m.acquisition o.device {} s.world).world
    rw [hout, heff, ← hworld]
    generalize Except.map judge _ = out at hsettles ⊢
    rcases out with f | st | answer
    · exact ⟨rfl, rfl, rfl, trivial⟩
    · exact ⟨rfl, rfl, rfl, hsettles⟩
    · obtain ⟨raw, rfl, hraw, hmem⟩ := hsettles
      have hread := read_reply h hraw
      rw [← hm, ← hmem] at hread
      exact ⟨rfl, rfl, rfl, hread⟩

/-- After a failure the sense area is as the probe has laid it out. -/
theorem execution_sense (m : Manager σ) (o : Options) (h : LaidOut mode l n)
    (hm : s.memory = n.put blockBase (draft o l.data).build) {st : Status}
    (hx : (m.execution mode (request o l) (some (blockOf l)) s).outcome = .ok st)
    (hst : st ≠ .complete) :
    (m.execution mode (request o l) (some (blockOf l)) s).memory.read
      (blockBase + Srb.Exec.fixedLength + o.command.length) senseLength.toNat = Bytes.zeros 14 := by
  have hb : ∀ b, some (blockOf l) = some b → b.Fits s.memory := hm ▸ h.blockOf_fits o
  have hzero := Srb.Draft.read_sense_build (h.build_le o) (stated_draft o l.data)
  rw [← hm, ← Nat.add_assoc] at hzero
  rw [Manager.execution_memory_of_ne hb hx hst]
  refine Eq.trans (Memory.read_congr (Memory.size_stamp ..) fun a ha _ => ?_) hzero
  unfold Srb.Exec.fixedLength at ha
  exact Memory.octet_stamp_of_not hb _ (not_showsStatus (by omega))

/-- Sending the block of a probe comes to the answering. An answer is in the data area then, and
without one the sense area is empty. -/
theorem send_inquiry (m : Manager σ) (h : LaidOut o.mode l n)
    (hm : s.memory = n.put blockBase (draft o l.data).build) (hg : s.registry = {}) :
    ∃ u, (m.send o.mode l.block).exec s = ((answering m o s.world).outcome.map statusOf, u) ∧
      u.world = (answering m o s.world).world ∧
      u.effects = s.effects ++ (answering m o s.world).effects ∧
      Settles (fun answer => u.memory.read dataBase o.allocation.toNat = answer)
        (answering m o s.world).outcome ∧
      ∀ st, (answering m o s.world).outcome = .ok (.error st) → u.memory.read
        (blockBase + Srb.Exec.fixedLength + o.command.length) senseLength.toNat =
          Bytes.zeros 14 := by
  obtain ⟨es, hx⟩ := m.send_executed (hm ▸ h.blockAt o) (hm ▸ h.requestIn o).symm
    (postEntry?_request o l)
  obtain ⟨hout, hworld, heffects, hsettles⟩ := execution_answering m o h hm hg
  refine ⟨_, hx.trans (congrArg (·, _) hout), hworld,
    congrArg (fun es : List Effect => s.effects ++ es) heffects, hsettles, fun st ha => ?_⟩
  rw [ha] at hout hsettles
  exact execution_sense m o h hm hout hsettles

/-- What a probe reports of the status of its INQUIRY. -/
def doneEvent (o : Options) (st : Status) : Log.Event :=
  event "INQUIRY done" [("key", .text o.device.text), ("status", .text st.text)]

/-- The INQUIRY is answered or fails as the answering says, and without an answer nothing is
shown. -/
theorem askDevice_exec (m : Manager σ) (h : LaidOut o.mode l s.memory) (hg : s.registry = {}) :
    ∃ u, (askDevice m o l).exec s = ((answering m o s.world).outcome.map (outcomeReport o), u) ∧
      u.world = (answering m o s.world).world ∧
      u.effects = s.effects ++ (answering m o s.world).effects := by
  obtain ⟨u, hx, hworld, heffects, hsettles, hsense⟩ := send_inquiry
    (s := { s with memory := s.memory.put blockBase (draft o l.data).build }) m h rfl hg
  dsimp only at hx hworld heffects hsettles hsense
  unfold askDevice
  rw [Run.exec_bind_ok (place_exec ..)]
  rcases ha : (answering m o s.world).outcome with f | st | answer <;> rw [ha] at hx hsettles
  · exact ⟨u, Run.exec_bind_error hx _, hworld, heffects⟩
  · have hsent : (m.send o.mode l.block).exec _ = (.ok st, u) := hx
    have hst : st ≠ .complete := hsettles
    refine ⟨{ u with events := u.events.push (doneEvent o st) },
      (Run.exec_bind_ok hsent _).trans ?_, hworld, heffects⟩
    rw [Run.exec_bind_ok (Run.exec_report ..), Run.exec_bind_ok (Run.exec_memory _), if_neg hst]
    dsimp only
    rw [hsense st ha]
    rfl
  · have hsent : (m.send o.mode l.block).exec _ = (.ok .complete, u) := hx
    have hanswer : u.memory.read dataBase o.allocation.toNat = answer := hsettles
    refine ⟨{ u with events := u.events.push (doneEvent o .complete) },
      (Run.exec_bind_ok hsent _).trans ?_, hworld, heffects⟩
    rw [Run.exec_bind_ok (Run.exec_report ..), Run.exec_bind_ok (Run.exec_memory _), if_pos rfl]
    dsimp only
    rw [hanswer]
    rfl

/-- What a probe shows and why it fails, if it does: the adapter comes first. -/
def finalReport (a : Adapter) (o : Options) (outcome : Except Status Bytes) : Report :=
  { outcomeReport o outcome with lines := adapterShown a :: (outcomeReport o outcome).lines }

/-- What a probe reports before it asks for anything. -/
def readyEvent : Log.Event :=
  event "ASPI manager"
    [("support_info", .int Manager.supportInfo.toNat), ("version", .int Manager.version.toNat)]

/-- A probe reports what its answering says. -/
theorem inquire_exec (m : Manager σ) (o : Options) (hm : s.memory = .zeroed memorySize)
    (hg : s.registry = {}) :
    ∃ u, (inquire m o).exec s =
        ((answering m o s.world).outcome.map (finalReport m.adapter o), u) ∧
      u.world = (answering m o s.world).world ∧
      u.effects = s.effects ++ (answering m o s.world).effects := by
  obtain ⟨l, memory, hl, h⟩ := layOut_ok o.mode
  let ready : State σ := { s with memory := memory, events := s.events.push readyEvent }
  obtain ⟨memory', hadapter, h'⟩ := askAdapter_exec (s := ready) m h
  let asked : State σ := { ready with memory := memory' }
  obtain ⟨u, hdevice, hworld, heff⟩ := askDevice_exec (o := o) (s := asked) m h' hg
  refine ⟨u, ?_, hworld, heff⟩
  unfold inquire
  rw [Run.exec_bind_ok (Run.exec_memory s), hm, hl]
  dsimp only
  rw [Run.exec_bind_ok (Run.exec_setMemory _ s)]
  refine (Run.exec_bind_ok (Run.exec_report readyEvent _) _).trans ?_
  rw [Run.exec_bind_ok hadapter, Run.exec_bind, hdevice]
  change _ = ((answering m o asked.world).outcome.map (finalReport m.adapter o), u)
  rcases (answering m o asked.world).outcome with f | outcome <;> rfl

end Probe

end AspiManager
