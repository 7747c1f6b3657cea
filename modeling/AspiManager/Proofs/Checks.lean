import AspiManager.Proofs.Checked
import AspiManager.Proofs.Copying
import AspiManager.Proofs.Descriptors
import AspiManager.Proofs.Program

/-!
# No check fails

The manager that checks itself runs like the manager (`Checked.perform_eq`): every part of a string
that is taken is there, and no branch is taken for what cannot happen. What is known of a block or of
a window when it is resolved still holds when it is used, because nothing that happens in between
changes the size of the memory.

With a host that does not break down and post routines that return, every call returns a status
(`Manager.calls_unbroken`).
-/

namespace AspiManager

namespace Run

variable {σ α : Type} {bs : Bytes}

theorem require_of {c : Prop} [Decidable c] (h : c) : (require c : Run σ Unit) = pure () := if_pos h

@[simp] theorem expect_some (a : α) : (expect (some a) : Run σ α) = pure a := rfl

theorem part_of {start n : Nat} (h : start + n ≤ bs.length) :
    (part bs start n : Run σ Bytes) = pure ((bs.drop start).take n) := by
  rw [part, require_of h, pure_bind]

theorem change_of {i : Nat} (h : i < bs.length) (b : UInt8) :
    (change bs i b : Run σ Bytes) = pure (bs.set i b) := by
  rw [change, require_of h, pure_bind]

end Run

namespace Checked

variable {σ : Type}

/-! ## Posting -/

theorem postArgument_eq (memory : Memory) (mode : AddressingMode) (srb : FarPtr) (range : Range) :
    (postArgument memory mode srb range : Run σ _) =
      pure (memory.postArgument mode srb range) := by
  cases mode with
  | protectedMode => rfl
  | realMode =>
    unfold postArgument allocSelector Memory.postArgument Memory.allocSelector DescriptorTable.alloc
    cases h : memory.table.freeSlot? with
    | none => rfl
    | some i =>
      obtain ⟨-, hi, -⟩ := DescriptorTable.freeSlot?_eq_some h
      simp only [Run.require_of hi, pure_bind]
      rfl

theorem callWithBlock_eq : callWithBlock (σ := σ) = Manager.callWithBlock := by
  funext m mode entry routine r block
  simp only [callWithBlock, postArgument_eq, pure_bind]
  rfl

theorem notify_eq : notify (σ := σ) = Manager.notify := by
  funext m mode r block
  simp only [notify, post, callWithBlock_eq]
  rfl

/-! ## Exchange and delivery -/

/-- A reply of the length that was asked for holds a header. -/
theorem collect_eq : collect (σ := σ) = Manager.collect := by
  funext m channel expected
  have hp : ∀ octets, Sg.Reply.parse? (Bytes.fit (max expected Sg.Header.length) octets) =
      some (.ofOctets (Bytes.fit (max expected Sg.Header.length) octets)) := fun octets =>
    Sg.Reply.parse?_eq (by rw [Bytes.length_fit]; exact Nat.le_max_right ..)
  refine Run.ext fun s => ?_
  unfold collect Manager.collect
  refine Run.exec_bind_congr rfl fun _ _ _ => Run.exec_bind_congr rfl fun a _ _ => ?_
  rcases a with ⟨read, octets⟩ | e | _
  · dsimp only
    by_cases hr : read = max expected Sg.Header.length
    · rw [if_pos hr, if_pos hr, hp]
      rfl
    · rw [if_neg hr, if_neg hr]
  · rfl
  · rfl

theorem exchange_eq : exchange (σ := σ) = Manager.exchange := by
  funext m channel message expected
  simp only [exchange, collect_eq]
  rfl

theorem copy_of {n : Nat} {dst src : Bytes} (hd : n ≤ dst.length) (hs : n ≤ src.length) :
    (copy n dst src : Run σ Bytes) = pure (src.take n ++ dst.drop n) := by
  rw [copy, Run.require_of hd, Run.part_of (by omega), pure_bind, pure_bind]
  rfl

theorem decodeData_eq (reply : Sg.Reply) (r : Request) (data : Option Bytes) :
    (decodeData reply r data : Run σ _) =
      pure (Delivery.copied data (Delivery.payloadFor r reply),
        data.map (Delivery.overlay · (Delivery.payloadFor r reply))) := by
  unfold decodeData Delivery.payloadFor Delivery.copied
  cases data with
  | none => cases r.direction <;> rfl
  | some dst =>
    cases r.direction with
    | input =>
      dsimp only
      rw [copy_of (Nat.min_le_left ..) (Nat.min_le_right ..), pure_bind,
        ← Delivery.overlay_eq]
      rfl
    | output | both | unchecked =>
      simp [Delivery.overlay]

/-- The sense octets that count are in the header, so that copying them needs no other bound. -/
theorem decodeSense_eq (reply : Sg.Reply) (sense : Option Bytes) :
    (decodeSense reply sense : Run σ _) =
      pure (Delivery.copied sense reply.sense, sense.map (Delivery.overlay · reply.sense)) := by
  cases sense with
  | none => rfl
  | some dst =>
    have hcount := reply.header.senseLength_le
    have hlen := Delivery.length_sense_le reply
    have hmin : min (min dst.length Sg.Header.maxSense) reply.sense.length =
        min dst.length reply.sense.length := by
      unfold Sg.Header.maxSense
      omega
    unfold decodeSense
    dsimp only
    rw [Run.part_of (by rw [Vector.length_toList]; omega), pure_bind, List.drop_zero,
      show reply.header.sense.toList.take reply.header.senseLength = reply.sense from rfl, hmin,
      copy_of (Nat.min_le_left ..) (Nat.min_le_right ..), pure_bind,
      ← Delivery.overlay_eq]
    rfl

theorem decode_eq (reply : Sg.Reply) (r : Request) (w : Windows Bytes) :
    (decode reply r w : Run σ _) = pure (Delivery.deliver reply r w) := by
  unfold decode Delivery.deliver
  by_cases h : reply.result ≠ 0
  · rw [if_pos h, if_pos h]
  · rw [if_neg h, if_neg h]
    simp only [decodeData_eq, decodeSense_eq, pure_bind]

variable {s : State σ} {r : Request} {block : Option Block} {w : Windows Range}

/-- Windows that are apart are not found to overlap. -/
theorem deliver_exec (hw : w.Sound s.memory) (r : Request) (reply : Sg.Reply) :
    (deliver r w reply).exec s = (Manager.deliver r w reply).exec s := by
  unfold deliver Manager.deliver
  simp only [Run.exec_bind, Run.exec_memory, Run.exec_lift, Memory.pair_ok hw, Run.expect_some,
    Run.exec_pure, decode_eq]
  by_cases h : reply.result ≠ 0
  · rw [if_pos h, if_pos h]
    simp only [pure_bind]
  · rw [if_neg h, if_neg h]
    simp only [pure_bind]

theorem roundTrip_exec (m : Manager σ) (handle : Handle) (hc : r.checkCommand = .ok ())
    (hw : w.Sound s.memory) :
    (roundTrip m handle r w).exec s = (m.roundTrip handle r w).exec s := by
  unfold roundTrip Manager.roundTrip
  rw [exchange_eq, Run.exec_bind_ok (Manager.payload_exec hw r),
    Run.exec_bind_ok (Manager.payload_exec hw r), Request.message_payload hc]
  by_cases hl : r.TooLong
  · rw [if_pos hl]
  rw [if_neg hl]
  refine Run.exec_bind_congr rfl fun reply t ht => ?_
  cases reply with
  | error e => rfl
  | ok reply =>
    -- An exchange leaves the memory alone, so the windows are still inside it.
    obtain ⟨es, hx⟩ := m.exchange_exec handle.channel ⟨r.outbound s.memory w, r.expectedReply⟩
      r.length_le_expectedReply s
    have hm : t.memory = s.memory := (congrArg (fun o => o.2.memory) (hx.symm.trans ht)).symm
    exact deliver_exec (hm ▸ hw) r reply

/-! ## Execution -/

/-- A block that fits has all the octets that show a status. -/
theorem writeBack_exec (hb : ∀ b, block = some b → b.Fits s.memory) (r : Request) :
    (writeBack r block).exec s = (Manager.writeBack r block).exec s := by
  cases block with
  | none => rfl
  | some b =>
    obtain ⟨hl, hs⟩ := hb b rfl
    have hlen := Memory.length_read_of_le hs
    rw [← hlen] at hl
    have hplace : ∀ {i}, i < Srb.Exec.fixedLength →
        i < (s.memory.read b.range.base b.range.len).length := fun hi => Nat.lt_of_lt_of_le hi hl
    refine Run.slice_bind_congr hs ?_
    rw [if_neg (Nat.not_lt.mpr hl), Run.require_of hl, pure_bind,
      Run.change_of (hplace (by decide)), pure_bind,
      Run.change_of (by rw [List.length_set]; exact hplace (by decide)), pure_bind,
      Run.change_of (by rw [List.length_set, List.length_set]; exact hplace (by decide)),
      pure_bind]

theorem settle_exec (hb : ∀ b, block = some b → b.Fits s.memory) (r : Request) (st : Status) :
    (settle r block st).exec s = (Manager.settle r block st).exec s := by
  unfold settle Manager.settle
  refine Run.exec_bind_congr rfl fun _ t ht => ?_
  cases ht
  refine Run.exec_bind_congr (writeBack_exec ?_ _) fun _ _ _ => rfl
  exact hb

theorem carryOut_exec (m : Manager σ) (mode : AddressingMode) (handle : Handle)
    (hb : ∀ b, block = some b → b.Fits s.memory) (hc : r.checkCommand = .ok ())
    (hw : w.Sound s.memory) :
    (carryOut m mode r block w handle).exec s = (m.carryOut mode r block w handle).exec s := by
  unfold carryOut Manager.carryOut
  rw [notify_eq]
  dsimp only
  refine Run.exec_bind_congr (writeBack_exec hb _) fun _ t ht => ?_
  cases (Manager.writeBack_exec hb _).symm.trans ht
  have hsize := Memory.size_stamp s.memory { r with status := .pending } block
  refine Run.exec_bind_congr (roundTrip_exec m handle hc (hw.of_size hsize)) fun outcome t ht => ?_
  -- Neither the stamp nor the round trip changes the size of the memory.
  obtain ⟨es, o, hx, -⟩ := m.roundTrip_exec handle (r := { r with status := .pending }) hc
    (s := s.stamped { r with status := .pending } block) (hw.of_size hsize)
  cases hx.symm.trans ht
  have hb' : ∀ b, block = some b → b.Fits (m.trip handle.channel { r with status := .pending } w
      (s.memory.stamp { r with status := .pending } block) s.world).memory := fun b h =>
    (hb b h).of_size ((Manager.size_trip ..).trans hsize)
  exact Run.exec_bind_congr (settle_exec hb' _ _) fun _ _ _ => rfl

theorem execute_exec (m : Manager σ) (mode : AddressingMode) (r : Request)
    (hb : ∀ b, block = some b → b.Fits s.memory) :
    (execute m mode r block).exec s = (m.execute mode r block).exec s := by
  unfold execute Manager.execute
  rw [Run.exec_bind_ok (Run.exec_memory s), Run.exec_bind_ok (Run.exec_memory s)]
  cases hw : r.windows s.memory mode with
  | error e =>
    refine Run.exec_bind_congr rfl fun _ t ht => ?_
    cases ht
    refine Run.exec_bind_congr rfl fun _ t ht => ?_
    cases ht
    refine settle_exec ?_ _ _
    exact hb
  | ok w =>
    have hf := Request.windows_ok_iff.mp hw
    refine Run.exec_bind_congr rfl fun _ t ht => ?_
    cases ht
    refine Run.exec_bind_congr rfl fun outcome t ht => ?_
    obtain ⟨es, hx⟩ := m.acquire_exec r.key
      { s with events := s.events ++ Log.Dump.request r w.data }
    cases hx.symm.trans ht
    generalize m.acquisition r.key s.registry s.world = a
    rcases a with ⟨e | handle, g, world, effects⟩
    · refine Run.exec_bind_congr rfl fun _ t ht => ?_
      cases ht
      refine settle_exec ?_ _ _
      exact hb
    · exact carryOut_exec m mode handle hb (Request.checkCommand_ok_iff.mpr hf.command) hf.sound

/-! ## Entry points -/

theorem nameField_eq (name : String) :
    (nameField name : Run σ _) = pure (Srb.AdapterInquiry.nameField name) := by
  have htake : ((name.toUTF8.toList.drop 0).take (min name.toUTF8.toList.length 15)) =
      name.toUTF8.toList.take 15 := by
    rw [List.drop_zero]
    exact List.take_eq_take_iff.mpr (by omega)
  unfold nameField Srb.AdapterInquiry.nameField
  dsimp only
  rw [Run.part_of (by omega), pure_bind, htake, Run.require_of, pure_bind]
  rw [List.length_take]
  omega

theorem answer_eq (a : Adapter) (q : Srb.AdapterInquiry) :
    (answer a q : Run σ _) = pure (q.answer a) := by
  simp only [answer, nameField_eq, pure_bind]
  rfl

/-- A block that was resolved parses, and so the inquiry is answered. -/
theorem adapterInquiry_eq : adapterInquiry (σ := σ) = Manager.adapterInquiry := by
  funext m mode srb
  refine Run.ext fun s => ?_
  unfold adapterInquiry Manager.adapterInquiry
  rw [Run.exec_bind_ok (Run.exec_memory s), Run.exec_bind_ok (Run.exec_memory s)]
  cases h : s.memory.resolve mode srb Srb.AdapterInquiry.length with
  | error e => rfl
  | ok range =>
    obtain ⟨q, hq, -⟩ := m.adapterInquiry_exec_answered mode srb s h
    refine Run.slice_bind_congr (Memory.resolve_stop_le h) ?_
    rw [hq, Run.expect_some, pure_bind]
    simp only [answer_eq, pure_bind]

theorem rejectBlock_exec {fixed : Range} (hs : fixed.stop ≤ s.memory.size)
    (hl : fixed.len = Srb.Exec.fixedLength) :
    (rejectBlock fixed).exec s = (Manager.rejectBlock fixed).exec s := by
  unfold rejectBlock Manager.rejectBlock
  refine Run.slice_bind_congr hs ?_
  rw [Run.change_of, pure_bind]
  rw [Memory.length_read_of_le hs, hl]
  decide

/-- A block that was resolved parses, and its command block is in it. -/
theorem executeBlock_eq : executeBlock (σ := σ) = Manager.executeBlock := by
  funext m mode srb
  refine Run.ext fun s => ?_
  unfold executeBlock Manager.executeBlock
  rw [Run.exec_bind_ok (Run.exec_memory s), Run.exec_bind_ok (Run.exec_memory s)]
  cases h : s.memory.resolve mode srb Srb.Exec.fixedLength with
  | error e => rfl
  | ok fixed =>
    have hs := Memory.resolve_stop_le h
    have hl : (s.memory.read fixed.base fixed.len).length = Srb.Exec.fixedLength := by
      rw [Memory.length_read_of_le hs, Memory.resolve_len h]
    obtain ⟨e, hp, -⟩ := Srb.Exec.parse?_of_length hl
    refine Run.slice_bind_congr hs ?_
    rw [hp, Run.expect_some, pure_bind]
    dsimp only
    rw [Run.exec_bind_ok (Run.exec_memory s), Run.exec_bind_ok (Run.exec_memory s)]
    cases hr : s.memory.resolve mode srb e.totalLength with
    | error a =>
      refine Run.exec_bind_congr rfl fun _ t ht => ?_
      cases ht
      refine rejectBlock_exec ?_ (Memory.resolve_len h)
      exact hs
    | ok range =>
      have hstop := Memory.resolve_stop_le hr
      have hlen := Memory.resolve_len hr
      refine Run.slice_bind_congr hstop ?_
      rw [Run.part_of, pure_bind]
      · refine Run.exec_bind_congr (execute_exec m mode _ ?_) fun _ _ _ => rfl
        rintro b hb
        cases hb
        exact ⟨hlen ▸ e.fixedLength_le, hstop⟩
      · rw [Memory.length_read_of_le hstop, hlen]
        unfold Srb.Exec.totalLength
        omega

/-- A header that was resolved parses. -/
theorem send_eq : send (σ := σ) = Manager.send := by
  funext m mode srb
  refine Run.ext fun s => ?_
  unfold send Manager.send
  rw [Run.exec_bind_ok (Run.exec_memory s), Run.exec_bind_ok (Run.exec_memory s)]
  cases h : s.memory.resolve mode srb Srb.Header.length with
  | error e => rfl
  | ok fixed =>
    have hs := Memory.resolve_stop_le h
    have hl : (s.memory.read fixed.base fixed.len).length = Srb.Header.length := by
      rw [Memory.length_read_of_le hs, Memory.resolve_len h]
    obtain ⟨header, hp, -⟩ := Srb.Header.parse?_of_length hl
    refine Run.slice_bind_congr hs ?_
    rw [hp, Run.expect_some, pure_bind]
    simp only [dispatch, adapterInquiry_eq, executeBlock_eq]
    rfl

theorem perform_eq : perform (σ := σ) = Manager.perform := by
  funext m mode call
  cases call with
  | send srb => exact congrFun (congrFun (congrFun send_eq m) mode) srb
  | submit r =>
    refine Run.ext fun s => ?_
    have hb : ∀ b, (none : Option Block) = some b → b.Fits s.memory := by simp
    exact Run.exec_bind_congr (execute_exec m mode r hb) fun _ _ _ => rfl

end Checked

/-! ## Runs that return -/

namespace Manager

variable {σ : Type} {m : Manager σ}

/-- A call whose host does not break down returns a status, if its routine returns. -/
theorem exists_ok_of_turn (hh : m.host.Steady) {f : Nat → PostCall → Run σ Unit}
    (hf : ∀ n c u, ∃ v, (f n c).exec u = (.ok (), v)) {mode : AddressingMode} {call : Call}
    {s u : State σ} {o : Except Fault Status} {p : Option Posting}
    (h : m.Turn mode call s o u p) : ∃ st t, finish f o u p = (.ok st, t) := by
  obtain ⟨st, rfl⟩ := h.exists_status hh
  refine ⟨st, ?_⟩
  unfold finish conclude
  dsimp only
  cases p with
  | none => exact ⟨_, rfl⟩
  | some q =>
    obtain ⟨v, hv⟩ := hf q.routine q.call (u.entering q)
    dsimp only
    rw [hv]
    exact ⟨_, rfl⟩

/-- A course with a host that does not break down ends, or is nested too deep. -/
theorem outcome_of_course (hh : m.host.Steady) {rep : Repertoire σ} {depth : Nat}
    {held : List Alias} {p : Program σ} {s t : State σ} {ms : List (Moment σ)}
    {o : Except Fault Unit} (h : Course m rep depth held p s ms o t) :
    o = .ok () ∨ o = .error .nesting := by
  induction h with
  | done => exact .inl rfl
  | tooDeep => exact .inr rfl
  | look _ ih | deed _ ih | call _ _ ih | posted _ _ _ _ ih | broken _ _ ih => exact ih
  | crashed turn =>
    obtain ⟨st, hst⟩ := turn.exists_status hh
    cases hst

/-- With a host that does not break down and routines that return, every call returns a status, and
the manager that checks itself returns the same one from the same state: no check fails. That it
runs like the manager is also true of the calls that routines make, and a program with such calls
ends, unless they are nested deeper than it may nest them. -/
theorem calls_unbroken (m : Manager σ) (hh : m.host.Steady)
    (hf : ∀ n c (u : State σ), ∃ v, (m.routine n c).exec u = (.ok (), v)) :
    (∀ mode call (s : State σ), ∃ st t, (m.perform mode call).exec s = (.ok st, t) ∧
      (Checked.perform m mode call).exec s = (.ok st, t)) ∧
    (∀ f mode call (s : State σ), (Checked.perform (m.withRoutines f) mode call).exec s =
      ((m.withRoutines f).perform mode call).exec s) ∧
    ∀ rep depth p (s : State σ), ∃ o t, (m.play rep depth p).exec s = (o, t) ∧
      (o = .ok () ∨ o = .error .nesting) := by
  refine ⟨fun mode call s => ?_, fun f mode call s => by rw [Checked.perform_eq],
    fun rep depth p s => ?_⟩
  · obtain ⟨o, u, p, ht, hx⟩ := m.perform_turn mode call s
    obtain ⟨st, t, hfin⟩ := exists_ok_of_turn hh hf ht
    have hm : (m.perform mode call).exec s = (.ok st, t) := (hx m.routine).trans hfin
    exact ⟨st, t, hm, by rw [Checked.perform_eq, hm]⟩
  · obtain ⟨ms, hc⟩ := m.play_course rep depth p [] s
    exact ⟨_, _, rfl, outcome_of_course hh hc⟩

end Manager

/-- The posted block at `0000:0010` is executed with all checks. -/
theorem posted_block_unbroken :
    let m := Manager.constant (Bytes.zeros 36)
    let s := { State.initial ((Memory.zeroed 256).put 16 postedDraft.build) with
      routines := .ofHistory [(128, 7)] }
    m.host.Steady ∧ (∀ n c (u : State Unit), ∃ v, (m.routine n c).exec u = (.ok (), v)) ∧
      ∃ t, (Checked.perform m .realMode (.send ⟨0, 16⟩)).exec s = (.ok .complete, t) := by
  intro m s
  have hh : m.host.Steady := Host.steady_constant _
  have hf : ∀ n c (u : State Unit), ∃ v, (m.routine n c).exec u = (.ok (), v) :=
    fun _ _ u => ⟨u, rfl⟩
  have hok : ((m.perform .realMode (.send ⟨0, 16⟩)).exec s).1.toOption = some .complete := by
    decide +kernel
  obtain ⟨st, t, hx, hc⟩ := (m.calls_unbroken hh hf).1 .realMode (.send ⟨0, 16⟩) s
  rw [hx] at hok
  obtain rfl : st = .complete := Option.some.inj hok
  exact ⟨hh, hf, t, hc⟩

end AspiManager
