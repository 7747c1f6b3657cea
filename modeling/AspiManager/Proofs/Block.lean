import AspiManager.Manager.Dispatch
import AspiManager.Proofs.Execution

/-!
# Blocks in memory

`BlockAt` says that a pointer finds a whole block that executes a command; `send_exec` that `send`
then executes its request. In memories without such a block `send` reaches no device
(`send_exec_of_not`), and what was meant to execute a command is invalid; `Aside` says what is done
instead (`send_aside`).
-/

namespace AspiManager

namespace Memory

variable {m : Memory} {mode : AddressingMode} {srb : FarPtr}

/-- A part of what was read is read from its own address. -/
theorem read_drop_take {base n k j : Nat} (hj : k + j ≤ n) :
    ((m.read base n).drop k).take j = m.read (base + k) j := by
  refine Bytes.ext_octet ?_ fun i hi => ?_
  · rw [List.length_take, List.length_drop, length_read, length_read]
    omega
  · rw [List.length_take] at hi
    rw [Bytes.octet_take, Bytes.octet_drop, octet_read, octet_read, if_pos (by omega),
      if_pos (by omega), if_pos (by omega), Nat.add_assoc]

end Memory

/-- At `srb` there is a block that executes a command: `e` is its fixed part, and all of it, with
the command block and the sense area, is in `range`. -/
structure BlockAt (m : Memory) (mode : AddressingMode) (srb : FarPtr) (e : Srb.Exec)
    (range : Range) : Prop where
  resolved : m.resolve mode srb e.totalLength = .ok range
  parsed : Srb.Exec.parse? (m.read range.base Srb.Exec.fixedLength) = some e
  command : e.command = Srb.Command.execute.toByte

/-- The request of a block in a range of the memory. -/
def Srb.Exec.requestIn (e : Srb.Exec) (m : Memory) (srb : FarPtr) (range : Range) : Request :=
  e.toRequest srb (m.read (range.base + Srb.Exec.fixedLength) e.cdbLength.toNat)

/-- The first octet at `srb` asks to execute a command. -/
def ExecutesAt (m : Memory) (mode : AddressingMode) (srb : FarPtr) : Prop :=
  ∃ header, m.resolve mode srb Srb.Header.length = .ok header ∧
    m.octet header.base = Srb.Command.execute.toByte

theorem Srb.Command.ofByte?_eq_execute {b : UInt8} :
    ofByte? b = some execute ↔ b = execute.toByte := by
  constructor
  · intro h
    unfold ofByte? at h
    split at h
    · cases h
    split at h
    · cases h
    split at h
    · assumption
    split at h
    · cases h
    split at h <;> cases h
  · rintro rfl
    rfl

theorem Srb.Exec.command_of_parse? {bs : Bytes} {e : Srb.Exec} (h : parse? bs = some e) :
    e.command = bs.octet 0 := by
  unfold parse? at h
  split at h
  · cases h
  · cases h; rfl

theorem Srb.Header.parse?_of_length {bs : Bytes} (h : bs.length = length) :
    ∃ header, parse? bs = some header ∧ header.command = bs.octet 0 :=
  ⟨_, if_pos h, rfl⟩

theorem Srb.Exec.parse?_of_length {bs : Bytes} (h : bs.length = fixedLength) :
    ∃ e, parse? bs = some e ∧ e.command = bs.octet 0 :=
  ⟨_, if_neg (Nat.not_lt.mpr (Nat.le_of_eq h.symm)), rfl⟩

theorem Srb.Exec.fixedLength_le (e : Srb.Exec) : fixedLength ≤ e.totalLength := by
  unfold totalLength
  omega

@[simp] theorem Srb.AdapterInquiry.length_encode (q : Srb.AdapterInquiry) :
    q.encode.length = length := by
  simp [encode, length]

namespace BlockAt

variable {m : Memory} {mode : AddressingMode} {srb : FarPtr} {e : Srb.Exec} {range : Range}

theorem len_eq (h : BlockAt m mode srb e range) : range.len = e.totalLength :=
  Memory.resolve_len h.resolved

theorem stop_le (h : BlockAt m mode srb e range) : range.stop ≤ m.size :=
  Memory.resolve_stop_le h.resolved

theorem fits (h : BlockAt m mode srb e range) : (Block.mk srb range).Fits m :=
  ⟨h.len_eq ▸ e.fixedLength_le, h.stop_le⟩

theorem resolve_header (h : BlockAt m mode srb e range) :
    m.resolve mode srb Srb.Header.length = .ok ⟨range.base, Srb.Header.length⟩ := by
  refine Memory.resolve_narrow h.resolved ?_
  have := e.fixedLength_le
  unfold Srb.Exec.fixedLength at this
  unfold Srb.Header.length
  omega

theorem executes (h : BlockAt m mode srb e range) : ExecutesAt m mode srb := by
  refine ⟨_, h.resolve_header, ?_⟩
  have hc := Srb.Exec.command_of_parse? h.parsed
  rw [h.command, Memory.octet_read, if_pos (by decide)] at hc
  exact hc.symm

theorem unique {e' : Srb.Exec} {range' : Range} (h : BlockAt m mode srb e range)
    (h' : BlockAt m mode srb e' range') : e = e' ∧ range = range' := by
  have hbase : range.base = range'.base := by
    have hr := h.resolve_header
    rw [h'.resolve_header] at hr
    exact (Range.mk.inj (Except.ok.inj hr)).1.symm
  have he : e = e' := by
    have hp := h.parsed
    rw [hbase, h'.parsed] at hp
    cases hp
    rfl
  subst he
  have hr := h.resolved
  rw [h'.resolved] at hr
  cases hr
  exact ⟨rfl, rfl⟩

end BlockAt

namespace Manager

variable {σ : Type} {m : Manager σ} {mode : AddressingMode} {srb : FarPtr} {e : Srb.Exec}
  {range : Range} {s : State σ}

/-- The request of a block is executed. -/
theorem executeBlock_exec (m : Manager σ) (h : BlockAt s.memory mode srb e range) :
    (m.executeBlock mode srb).exec s =
      (do return (← m.execute mode (e.requestIn s.memory srb range) (some ⟨srb, range⟩)).status
        ).exec s := by
  have hfixed := Memory.resolve_narrow h.resolved e.fixedLength_le
  have hsf := Memory.resolve_stop_le hfixed
  have hcdb : ((s.memory.read range.base range.len).drop Srb.Exec.fixedLength).take
      e.cdbLength.toNat = s.memory.read (range.base + Srb.Exec.fixedLength) e.cdbLength.toNat :=
    Memory.read_drop_take (by rw [h.len_eq]; unfold Srb.Exec.totalLength; omega)
  unfold executeBlock
  rw [Run.exec_bind_ok (Run.exec_memory s), hfixed]
  dsimp only
  rw [Run.exec_bind_ok (by rw [Run.exec_slice, Memory.slice_ok hsf]), h.parsed]
  dsimp only
  rw [Run.exec_bind_ok (Run.exec_memory s), h.resolved]
  dsimp only
  rw [Run.exec_bind_ok (by rw [Run.exec_slice, Memory.slice_ok h.stop_le]), hcdb]
  rfl

/-- A header is dispatched by its first octet. -/
theorem send_exec_header (m : Manager σ) {fixed : Range}
    (h : s.memory.resolve mode srb Srb.Header.length = .ok fixed) :
    ∃ header : Srb.Header, header.command = s.memory.octet fixed.base ∧
      ∀ f, ((m.withRoutines f).send mode srb).exec s =
        ((m.withRoutines f).dispatch mode srb header).exec s := by
  have hs := Memory.resolve_stop_le h
  have hl : (s.memory.read fixed.base fixed.len).length = Srb.Header.length := by
    rw [Memory.length_read_of_le hs, Memory.resolve_len h]
  obtain ⟨header, hp, hc⟩ := Srb.Header.parse?_of_length hl
  refine ⟨header, ?_, fun f => ?_⟩
  · rw [hc, Memory.octet_read, Memory.resolve_len h, if_pos (by decide)]
    rfl
  · unfold send
    rw [Run.exec_bind_ok (Run.exec_memory s), h]
    dsimp only
    rw [Run.exec_bind_ok (by rw [Run.exec_slice, Memory.slice_ok hs]), hp]

/-- The request of a block is executed. -/
theorem send_exec (m : Manager σ) (h : BlockAt s.memory mode srb e range)
    (f : Nat → PostCall → Run σ Unit) :
    ((m.withRoutines f).send mode srb).exec s =
      (do return (← (m.withRoutines f).execute mode (e.requestIn s.memory srb range)
            (some ⟨srb, range⟩)).status).exec s := by
  obtain ⟨header, hc, hx⟩ := m.send_exec_header h.resolve_header
  have hcmd : Srb.Command.ofByte? header.command = some .execute := by
    rw [Srb.Command.ofByte?_eq_execute, hc]
    obtain ⟨q, hq, ho⟩ := h.executes
    rw [h.resolve_header] at hq
    cases hq
    exact ho
  rw [hx, dispatch, hcmd]
  exact executeBlock_exec _ h

/-! ## Without a block -/

/-- What `send` comes to in a memory that has no block to execute: the status, and the memory that
it leaves. -/
inductive Aside (adapter : Adapter) (memory : Memory) (mode : AddressingMode) (srb : FarPtr) :
    Status → Memory → Prop
  /-- Nothing is changed. -/
  | refused : Aside adapter memory mode srb .invalid memory
  /-- Of the block only the fixed part can be reached, which shows that it is invalid. -/
  | rejected {fixed : Range} (h : memory.resolve mode srb Srb.Exec.fixedLength = .ok fixed) :
    Aside adapter memory mode srb .invalid
      (memory.put (fixed.base + Srb.statusOffset) [Status.invalid.toByte])
  /-- The block asks for the adapter and is answered. -/
  | answered {range : Range} {q : Srb.AdapterInquiry}
    (h : memory.resolve mode srb Srb.AdapterInquiry.length = .ok range)
    (hq : Srb.AdapterInquiry.parse? (memory.read range.base range.len) = some q) :
    Aside adapter memory mode srb .complete (memory.put range.base (q.answer adapter).encode)

theorem rejectBlock_exec {fixed : Range}
    (h : s.memory.resolve mode srb Srb.Exec.fixedLength = .ok fixed) :
    (rejectBlock fixed : Run σ Status).exec s =
      (.ok .invalid, { s with
        memory := s.memory.put (fixed.base + Srb.statusOffset) [Status.invalid.toByte] }) := by
  have hs := Memory.resolve_stop_le h
  have hl : Srb.statusOffset < (s.memory.read fixed.base fixed.len).length := by
    rw [Memory.length_read_of_le hs, Memory.resolve_len h]
    decide
  unfold rejectBlock
  rw [Run.exec_bind_ok (by rw [Run.exec_slice, Memory.slice_ok hs])]
  simp only [Run.exec_bind, Run.exec_replace]
  rw [Memory.replace_ok hs (by rw [List.length_set, Memory.length_read_of_le hs]),
    Memory.put_set hl, Memory.put_read]
  rfl

/-- A block of which no more than the fixed part can be reached is rejected. -/
theorem executeBlock_exec_rejected (m : Manager σ) {fixed : Range}
    (h : s.memory.resolve mode srb Srb.Exec.fixedLength = .ok fixed)
    (hp : Srb.Exec.parse? (s.memory.read fixed.base fixed.len) = some e)
    (ht : ∀ range, s.memory.resolve mode srb e.totalLength ≠ .ok range) :
    ∃ es, ∀ f, ((m.withRoutines f).executeBlock mode srb).exec s =
      (.ok .invalid, { s with
        memory := s.memory.put (fixed.base + Srb.statusOffset) [Status.invalid.toByte]
        events := es }) := by
  have hs := Memory.resolve_stop_le h
  cases hr : s.memory.resolve mode srb e.totalLength with
  | ok range => exact absurd hr (ht range)
  | error a =>
    let warning := blockWarning "SRB tail out of reach" srb
      [("len", .int e.totalLength), ("error", .text a.message)]
    have hx := rejectBlock_exec (s := { s with events := s.events.push warning }) h
    refine ⟨s.events.push warning, fun f => ?_⟩
    unfold executeBlock
    simp only [Run.exec_bind, Run.exec_memory, h, Run.exec_slice, Memory.slice_ok hs, hp, hr,
      Run.exec_report]
    exact hx

/-- What should be a block that executes a command and is none is invalid. -/
theorem executeBlock_exec_of_not (m : Manager σ) {fixed : Range}
    (hfixed : s.memory.resolve mode srb Srb.Header.length = .ok fixed)
    (hc : s.memory.octet fixed.base = Srb.Command.execute.toByte)
    (h : ¬ ∃ e range, BlockAt s.memory mode srb e range) :
    ∃ memory es, Aside m.adapter s.memory mode srb .invalid memory ∧
      ∀ f, ((m.withRoutines f).executeBlock mode srb).exec s =
        (.ok .invalid, { s with memory := memory, events := es }) := by
  cases hr : s.memory.resolve mode srb Srb.Exec.fixedLength with
  | error e =>
    let warning := blockWarning "Bad EXEC_SCSI_CMD block" srb [("error", .text e.message)]
    refine ⟨_, s.events.push warning, .refused, fun _ => ?_⟩
    unfold executeBlock
    simp only [Run.exec_bind, Run.exec_memory, hr]
    rfl
  | ok range =>
    have hl : (s.memory.read range.base range.len).length = Srb.Exec.fixedLength := by
      rw [Memory.length_read_of_le (Memory.resolve_stop_le hr), Memory.resolve_len hr]
    obtain ⟨e, hp, he⟩ := Srb.Exec.parse?_of_length hl
    obtain ⟨es, hx⟩ := m.executeBlock_exec_rejected hr hp fun whole ht => by
      -- All three lengths name ranges with one base, so the parts are those of a block.
      refine h ⟨e, whole, ht, ?_, ?_⟩
      · rw [Memory.resolve_narrow ht e.fixedLength_le] at hr
        cases hr
        exact hp
      · rw [Memory.resolve_narrow hr (by decide)] at hfixed
        cases hfixed
        rw [he, Memory.octet_read, Memory.resolve_len hr, if_pos (by decide)]
        exact hc
    exact ⟨_, es, .rejected hr, hx⟩

/-- What is reported of a block that asks for the adapter and is answered. -/
def answerEvents (q : Srb.AdapterInquiry) : List Log.Event :=
  if q.signature = Srb.AdapterInquiry.extendedSignature then
    [event .trace "Extended request detected (not yet supported)" []]
  else []

/-- A block that asks for the adapter and can be reached is answered. -/
theorem adapterInquiry_exec_answered (m : Manager σ) (mode : AddressingMode) (srb : FarPtr)
    (s : State σ) {range : Range}
    (h : s.memory.resolve mode srb Srb.AdapterInquiry.length = .ok range) :
    ∃ q, Srb.AdapterInquiry.parse? (s.memory.read range.base range.len) = some q ∧
      (m.adapterInquiry mode srb).exec s = (.ok .complete, { s with
        memory := s.memory.put range.base (q.answer m.adapter).encode
        events := s.events ++ answerEvents q }) := by
  have hs := Memory.resolve_stop_le h
  have hl : (s.memory.read range.base range.len).length = Srb.AdapterInquiry.length := by
    rw [Memory.length_read_of_le hs, Memory.resolve_len h]
  obtain ⟨q, hq⟩ : ∃ q, Srb.AdapterInquiry.parse? (s.memory.read range.base range.len) = some q :=
    ⟨_, if_pos hl⟩
  have hput : s.memory.replace range (q.answer m.adapter).encode =
      .ok (s.memory.put range.base (q.answer m.adapter).encode) :=
    Memory.replace_ok hs (by rw [Srb.AdapterInquiry.length_encode, Memory.resolve_len h])
  refine ⟨q, hq, ?_⟩
  unfold adapterInquiry answerEvents
  simp only [Run.exec_bind, Run.exec_memory, h, Run.exec_slice, Memory.slice_ok hs, hq]
  by_cases hx : q.signature = Srb.AdapterInquiry.extendedSignature
  · rw [if_pos hx, if_pos hx]
    simp only [Run.exec_bind, Run.exec_report, Run.exec_replace, hput]
    rfl
  · rw [if_neg hx, if_neg hx]
    simp only [Run.exec_bind, Run.exec_pure, Run.exec_replace, hput]
    rfl

/-- A block that asks for the adapter is answered or refused. -/
theorem adapterInquiry_exec (m : Manager σ) (mode : AddressingMode) (srb : FarPtr) (s : State σ) :
    ∃ st memory es, Aside m.adapter s.memory mode srb st memory ∧
      (m.adapterInquiry mode srb).exec s = (.ok st, { s with memory := memory, events := es }) := by
  cases hr : s.memory.resolve mode srb Srb.AdapterInquiry.length with
  | error e =>
    let warning := blockWarning "Bad HA_INQUIRY block" srb [("error", .text e.message)]
    refine ⟨_, _, s.events.push warning, .refused, ?_⟩
    unfold adapterInquiry
    simp only [Run.exec_bind, Run.exec_memory, hr]
    rfl
  | ok range =>
    obtain ⟨q, hq, hx⟩ := m.adapterInquiry_exec_answered mode srb s hr
    exact ⟨_, _, _, .answered hr hq, hx⟩

/-- Without a block that executes a command, no device is reached and no routine is called. What
was meant to execute a command is invalid. -/
theorem send_aside (m : Manager σ) (h : ¬ ∃ e range, BlockAt s.memory mode srb e range) :
    ∃ st memory es, Aside m.adapter s.memory mode srb st memory ∧
      (ExecutesAt s.memory mode srb → st = .invalid) ∧
      ∀ f, ((m.withRoutines f).send mode srb).exec s =
        (.ok st, { s with memory := memory, events := es }) := by
  cases hr : s.memory.resolve mode srb Srb.Header.length with
  | error e =>
    let warning := blockWarning "Bad SRB pointer" srb [("error", .text e.message)]
    refine ⟨.invalid, s.memory, s.events.push warning, .refused, fun _ => rfl, fun f => ?_⟩
    rw [send, Run.exec_bind_ok (Run.exec_memory s), hr]
    rfl
  | ok fixed =>
    obtain ⟨header, hc, hx⟩ := m.send_exec_header hr
    simp only [hx, dispatch]
    cases hcmd : Srb.Command.ofByte? header.command with
    | none =>
      exact ⟨.invalid, s.memory, _, .refused, fun _ => rfl, fun _ => rfl⟩
    | some c =>
      cases c with
      | execute =>
        rw [Srb.Command.ofByte?_eq_execute, hc] at hcmd
        obtain ⟨memory, es, ha, hx⟩ := m.executeBlock_exec_of_not hr hcmd h
        exact ⟨_, memory, es, ha, fun _ => rfl, hx⟩
      | adapterInquiry =>
        obtain ⟨st, memory, es, ha, hx⟩ := m.adapterInquiry_exec mode srb s
        refine ⟨st, memory, es, ha, ?_, fun f => ?_⟩
        · rintro ⟨q, hq, ho⟩
          rw [hr] at hq
          cases hq
          rw [hc, ho] at hcmd
          cases hcmd
        · exact hx
      | deviceType | abort | reset =>
        exact ⟨.invalid, s.memory, _, .refused, fun _ => rfl, fun _ => rfl⟩

/-- Without a block that executes a command, nothing but the memory and the report changes. -/
theorem send_exec_of_not (m : Manager σ) (h : ¬ ∃ e range, BlockAt s.memory mode srb e range) :
    ∃ o memory es, (ExecutesAt s.memory mode srb → o = .ok .invalid) ∧
      ∀ f, ((m.withRoutines f).send mode srb).exec s =
        (o, { s with memory := memory, events := es }) := by
  obtain ⟨st, memory, es, -, hst, hx⟩ := m.send_aside h
  exact ⟨.ok st, memory, es, fun he => congrArg _ (hst he), hx⟩

end Manager

end AspiManager
