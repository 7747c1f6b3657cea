import AspiManager.Proofs.PostRoutine

/-!
# The status that a block shows

A caller reads the outcome of a call from the second octet of its block. Blocks that execute a
command show it as soon as their fixed part can be reached, and blocks that ask for the adapter if
all of them can (`ReportsAt`). Every other block is refused and left as it is: its caller sees the
status that it put there (`Manager.status_shown_iff`).
-/

namespace AspiManager

/-- The block at `srb` is one that shows the status of its call. -/
inductive ReportsAt (m : Memory) (mode : AddressingMode) (srb : FarPtr) : Prop
  /-- It asks for the adapter, and all of it can be reached. -/
  | inquiry {range : Range} (h : m.resolve mode srb Srb.AdapterInquiry.length = .ok range)
    (hc : m.octet range.base = Srb.Command.adapterInquiry.toByte)
  /-- It is to execute a command, and its fixed part can be reached. -/
  | execute {fixed : Range} (h : m.resolve mode srb Srb.Exec.fixedLength = .ok fixed)
    (hc : m.octet fixed.base = Srb.Command.execute.toByte)

theorem Srb.Command.ofByte?_eq_adapterInquiry {b : UInt8} :
    ofByte? b = some adapterInquiry ↔ b = adapterInquiry.toByte := by
  constructor
  · intro h
    unfold ofByte? at h
    split at h
    · assumption
    split at h
    · cases h
    split at h
    · cases h
    split at h
    · cases h
    split at h <;> cases h
  · rintro rfl
    rfl

theorem BlockAt.reports {m : Memory} {mode : AddressingMode} {srb : FarPtr} {e : Srb.Exec}
    {range : Range} (h : BlockAt m mode srb e range) : ReportsAt m mode srb := by
  obtain ⟨q, hq, hc⟩ := h.executes
  rw [h.resolve_header] at hq
  cases hq
  exact .execute (Memory.resolve_narrow h.resolved e.fixedLength_le) hc

/-- The answer to an inquiry shows success. -/
theorem Srb.AdapterInquiry.octet_answer (q : AdapterInquiry) (a : Adapter) :
    Bytes.octet (q.answer a).encode statusOffset = Status.complete.toByte := rfl

namespace Manager

variable {σ : Type} {m : Manager σ} {mode : AddressingMode} {srb : FarPtr} {s t : State σ}
  {header : Range} {st : Status}

/-- A block that does not report is refused and left as it is. -/
theorem send_exec_unreported (m : Manager σ)
    (hr : s.memory.resolve mode srb Srb.Header.length = .ok header)
    (hn : ¬ ReportsAt s.memory mode srb) :
    ∃ es, ∀ f, ((m.withRoutines f).send mode srb).exec s =
      (.ok .invalid, { s with events := es }) := by
  obtain ⟨h, hc, hx⟩ := m.send_exec_header hr
  simp only [hx, dispatch]
  cases hcmd : Srb.Command.ofByte? h.command with
  | none => exact ⟨_, fun _ => rfl⟩
  | some c =>
    cases c with
    | deviceType | abort | reset => exact ⟨_, fun _ => rfl⟩
    | adapterInquiry =>
      rw [Srb.Command.ofByte?_eq_adapterInquiry, hc] at hcmd
      cases hi : s.memory.resolve mode srb Srb.AdapterInquiry.length with
      | error e =>
        refine ⟨s.events.push
          (blockWarning "Bad HA_INQUIRY block" srb [("error", .text e.message)]), fun f => ?_⟩
        dsimp only
        rw [adapterInquiry, Run.exec_bind_ok (Run.exec_memory s), hi]
        rfl
      | ok range =>
        refine absurd (.inquiry hi ?_) hn
        rw [Memory.resolve_narrow hi (by decide)] at hr
        cases hr
        exact hcmd
    | execute =>
      rw [Srb.Command.ofByte?_eq_execute, hc] at hcmd
      cases he : s.memory.resolve mode srb Srb.Exec.fixedLength with
      | error e =>
        refine ⟨s.events.push
          (blockWarning "Bad EXEC_SCSI_CMD block" srb [("error", .text e.message)]), fun f => ?_⟩
        dsimp only
        rw [executeBlock, Run.exec_bind_ok (Run.exec_memory s), he]
        rfl
      | ok fixed =>
        refine absurd (.execute he ?_) hn
        rw [Memory.resolve_narrow he (by decide)] at hr
        cases hr
        exact hcmd

/-- A block that asks for the adapter, and can be reached, is answered where it is. -/
theorem send_exec_answered (m : Manager σ) {range : Range}
    (h : s.memory.resolve mode srb Srb.AdapterInquiry.length = .ok range)
    (hc : s.memory.octet range.base = Srb.Command.adapterInquiry.toByte) :
    ∃ q, Srb.AdapterInquiry.parse? (s.memory.read range.base range.len) = some q ∧
      ∀ f, ((m.withRoutines f).send mode srb).exec s = (.ok .complete, { s with
        memory := s.memory.put range.base (q.answer m.adapter).encode
        events := s.events ++ answerEvents q }) := by
  obtain ⟨head, hcmd, hx⟩ := m.send_exec_header (Memory.resolve_narrow h (by decide))
  obtain ⟨q, hq, ha⟩ := m.adapterInquiry_exec_answered mode srb s h
  refine ⟨q, hq, fun f => ?_⟩
  rw [hx, dispatch, Srb.Command.ofByte?_eq_adapterInquiry.mpr (hcmd.trans hc)]
  exact ha

/-- A block that is answered shows success. -/
theorem octet_put_answer {range : Range}
    (h : s.memory.resolve mode srb Srb.AdapterInquiry.length = .ok range)
    (q : Srb.AdapterInquiry) (a : Adapter) :
    (s.memory.put range.base (q.answer a).encode).octet (range.base + Srb.statusOffset) =
      Status.complete.toByte := by
  have hs := Memory.resolve_stop_le h
  have hl := Memory.resolve_len h
  unfold Range.stop at hs
  unfold Srb.AdapterInquiry.length at hl
  unfold Srb.statusOffset
  rw [Memory.octet_put, Srb.AdapterInquiry.length_encode, if_pos, Nat.add_sub_cancel_left]
  · exact q.octet_answer a
  · unfold Srb.AdapterInquiry.length
    omega

/-- A block without its end shows that it is invalid. -/
theorem send_exec_rejected (m : Manager σ) {fixed : Range}
    (h : s.memory.resolve mode srb Srb.Exec.fixedLength = .ok fixed)
    (hc : s.memory.octet fixed.base = Srb.Command.execute.toByte)
    (hn : ¬ ∃ e range, BlockAt s.memory mode srb e range) :
    ∃ t, (∀ f, ((m.withRoutines f).send mode srb).exec s = (.ok .invalid, t)) ∧
      t.memory.octet (fixed.base + Srb.statusOffset) = Status.invalid.toByte := by
  have hs := Memory.resolve_stop_le h
  have hl := Memory.resolve_len h
  have hread : (s.memory.read fixed.base fixed.len).length = Srb.Exec.fixedLength := by
    rw [Memory.length_read_of_le hs, hl]
  obtain ⟨e, hp, he⟩ := Srb.Exec.parse?_of_length hread
  rw [Memory.octet_read, hl, if_pos (by decide)] at he
  obtain ⟨es, hx⟩ := m.executeBlock_exec_rejected h hp fun range ht => by
    refine hn ⟨e, range, ht, ?_, he.trans hc⟩
    rw [Memory.resolve_narrow ht e.fixedLength_le] at h
    cases h
    exact hp
  obtain ⟨head, hcmd, hd⟩ := m.send_exec_header (Memory.resolve_narrow h (by decide))
  refine ⟨{ s with
    memory := s.memory.put (fixed.base + Srb.statusOffset) [Status.invalid.toByte], events := es },
    fun f => ?_, ?_⟩
  · rw [hd, dispatch, Srb.Command.ofByte?_eq_execute.mpr (hcmd.trans hc)]
    exact hx f
  unfold Range.stop at hs
  unfold Srb.Exec.fixedLength at hl
  unfold Srb.statusOffset
  rw [Memory.octet_put_one, if_pos ⟨rfl, by omega⟩]

/-- When no post routine was called, a block that reports shows the status that is returned. -/
theorem send_shows (hr : s.memory.resolve mode srb Srb.Header.length = .ok header)
    (hs : m.Silent mode (.send srb) s) (hx : (m.send mode srb).exec s = (.ok st, t))
    (h : ReportsAt s.memory mode srb) :
    t.memory.octet (header.base + Srb.statusOffset) = st.toByte := by
  by_cases hb : ∃ e range, BlockAt s.memory mode srb e range
  · -- The block is stamped with the status of its request last of all.
    obtain ⟨e, range, hb⟩ := hb
    rw [hb.resolve_header] at hr
    cases hr
    obtain ⟨o, u, ht, hu⟩ := exec_of_silent hs
    cases hu.symm.trans hx
    obtain ⟨hshows, -⟩ := ht.shows (.send hb) _ rfl
    rw [status_settle] at hshows
    exact hshows
  cases h with
  | inquiry hi hc =>
    obtain ⟨q, -, hu⟩ := m.send_exec_answered hi hc
    rw [Memory.resolve_narrow hi (by decide)] at hr
    cases hr
    cases (hu m.routine).symm.trans hx
    exact octet_put_answer hi q m.adapter
  | execute he hc =>
    obtain ⟨u, hu, ho⟩ := m.send_exec_rejected he hc hb
    rw [Memory.resolve_narrow he (by decide)] at hr
    cases hr
    cases (hu m.routine).symm.trans hx
    exact ho

/-- When a block whose header can be reached was sent and no post routine was called, its second
octet is the status that is returned exactly if the block reports, or had the octet of an invalid
request there before: a block that does not report is invalid, and the memory is as it was. -/
theorem status_shown_iff (hr : s.memory.resolve mode srb Srb.Header.length = .ok header)
    (hs : m.Silent mode (.send srb) s) (hx : (m.send mode srb).exec s = (.ok st, t)) :
    (t.memory.octet (header.base + 1) = st.toByte ↔
      ReportsAt s.memory mode srb ∨
        s.memory.octet (header.base + 1) = Status.invalid.toByte) ∧
    (¬ ReportsAt s.memory mode srb → st = .invalid ∧ t.memory = s.memory) := by
  by_cases h : ReportsAt s.memory mode srb
  · exact ⟨iff_of_true (send_shows hr hs hx h) (.inl h), fun hn => absurd h hn⟩
  · obtain ⟨es, hu⟩ := m.send_exec_unreported hr h
    cases (hu m.routine).symm.trans hx
    exact ⟨⟨.inr, fun ho => ho.resolve_left h⟩, fun _ => ⟨rfl, rfl⟩⟩

end Manager

/-- The block at `0000:0010` in a memory that ends with its fixed part. -/
def clippedMemory : Memory := (Memory.zeroed 80).put 16 readyDraft.build

/-- Of the clipped block neither the command block nor the sense area can be reached, and it shows
that it is invalid. -/
theorem clipped_block_shown :
    let m := Manager.constant []
    let s := State.initial clippedMemory
    s.memory.resolve .realMode ⟨0, 16⟩ Srb.Header.length = .ok ⟨16, 8⟩ ∧
      m.Silent .realMode (.send ⟨0, 16⟩) s ∧
      ∃ t, (m.send .realMode ⟨0, 16⟩).exec s = (.ok .invalid, t) ∧
        t.memory.octet 17 = Status.invalid.toByte := by
  intro m s
  have hr : s.memory.resolve .realMode ⟨0, 16⟩ Srb.Header.length = .ok ⟨16, 8⟩ := rfl
  have hf : s.memory.resolve .realMode ⟨0, 16⟩ Srb.Exec.fixedLength = .ok ⟨16, 64⟩ := rfl
  have hc : s.memory.octet 16 = Srb.Command.execute.toByte := by decide +kernel
  have hlen : (Srb.Exec.parse? (s.memory.read 16 64)).map Srb.Exec.totalLength = some 84 := by
    decide +kernel
  have hn : ¬ ∃ e range, BlockAt s.memory .realMode ⟨0, 16⟩ e range := by
    rintro ⟨e, range, hb⟩
    have hbase : range.base = 16 :=
      (Range.mk.inj (Except.ok.inj (hb.resolve_header.symm.trans hr))).1
    have hp := hb.parsed
    rw [hbase] at hp
    have h84 : e.totalLength = 84 := by
      have h := hlen
      rw [show Srb.Exec.parse? (s.memory.read 16 64) = some e from hp] at h
      exact Option.some.inj h
    have hstop : range.base + range.len ≤ 80 := hb.stop_le
    rw [hb.len_eq, h84, hbase] at hstop
    omega
  obtain ⟨t, hx, -⟩ := m.send_exec_rejected hf hc hn
  have hs : m.Silent .realMode (.send ⟨0, 16⟩) s := Manager.silent_of_forall hx
  exact ⟨hr, hs, t, hx m.routine,
    (Manager.status_shown_iff hr hs (hx m.routine)).1.mpr (.inl (.execute hf hc))⟩

/-- A block that asks for the type of a device is invalid, and still shows that it is pending. -/
theorem device_type_pending :
    let m := Manager.constant []
    let s := State.initial ((Memory.zeroed 256).put 16 [1, 0, 0, 0, 0, 0, 0, 0])
    s.memory.resolve .realMode ⟨1, 0⟩ Srb.Header.length = .ok ⟨16, 8⟩ ∧
      m.Silent .realMode (.send ⟨1, 0⟩) s ∧
      ∃ t, (m.send .realMode ⟨1, 0⟩).exec s = (.ok .invalid, t) ∧
        t.memory.octet 17 = Status.pending.toByte ∧
        t.memory.octet 17 ≠ Status.invalid.toByte := by
  intro m s
  have hr : s.memory.resolve .realMode ⟨1, 0⟩ Srb.Header.length = .ok ⟨16, 8⟩ := rfl
  have h16 : s.memory.octet 16 = 1 := by decide +kernel
  have h17 : s.memory.octet 17 = 0 := by decide +kernel
  have hn : ¬ ReportsAt s.memory .realMode ⟨1, 0⟩ := by
    have hbase : ∀ {range : Range} {n : Nat}, Srb.Header.length ≤ n →
        s.memory.resolve .realMode ⟨1, 0⟩ n = .ok range → range.base = 16 := fun hn h =>
      (Range.mk.inj (Except.ok.inj ((Memory.resolve_narrow h hn).symm.trans hr))).1
    rintro (⟨h, hc⟩ | ⟨h, hc⟩) <;> rw [hbase (by decide) h, h16] at hc <;> cases hc
  obtain ⟨es, hx⟩ := m.send_exec_unreported hr hn
  refine ⟨hr, Manager.silent_of_forall hx, _, hx m.routine, h17, ?_⟩
  dsimp only
  rw [h17]
  decide

end AspiManager
