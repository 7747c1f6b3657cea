import AspiManager.Proofs.Messages
import AspiManager.Proofs.SenseArea
import AspiManager.Proofs.Turn

/-!
# Memory after success

When a call is complete and no post routine was called, the memory is known octet by octet
(`Completed`): the data window of a read holds the payload of the reply, all of it, the front of the
sense window holds the sense octets that count, the block shows the status, and everything else is
as before. The status wins where the data window covers the block; the sense window never does.
-/

namespace AspiManager

/-- The number of sense octets of a reply that count. -/
def Sg.senseCount (raw : Bytes) : Nat :=
  if 0x70 ≤ raw.octet 20 &&& 0x7F ∧ raw.octet 20 &&& 0x7F ≤ 0x73 then
    min 16 (8 + (raw.octet 27).toNat)
  else 0

/-- The octets that the read of a request's reply filled in: the device took the whole message, gave
the whole reply, and `raw` is what the reader then has. -/
def Manager.Answered {σ : Type} (m : Manager σ) (r : Request) (block : Option Block)
    (w : Windows Range) (s : State σ) (raw : Bytes) : Prop :=
  ∃ handle world world' octets,
    (m.acquisition r.key s.registry s.world).outcome = .ok handle ∧
    m.host.write handle.channel
        (r.outbound (s.memory.stamp { r with status := .pending } block) w)
        (m.acquisition r.key s.registry s.world).world =
      (.done (r.outbound (s.memory.stamp { r with status := .pending } block) w).length, world) ∧
    m.host.read handle.channel r.expectedReply world = (.done (r.expectedReply, octets), world') ∧
    raw = Bytes.fit r.expectedReply octets

/-- The memory after a request that is complete, octet by octet. -/
structure Completed (before after : Memory) (r : Request) (block : Option Block)
    (w : Windows Range) (raw : Bytes) : Prop where
  /-- All of the data window of a read holds the payload, but for the status of the block. -/
  data : r.direction = .input → ∀ d, w.data = some d →
    d.len = r.data.len.toNat ∧ raw.length = 36 + d.len ∧
      ∀ i < d.len, (∀ b, block = some b → ¬ b.ShowsStatus (d.base + i)) →
        after.octet (d.base + i) = raw.octet (36 + i)
  /-- The front of the sense window holds the sense octets that count. -/
  sense : ∀ q, w.sense = some q → q.len = r.sense.len.toNat ∧
    ∀ i < min q.len (Sg.senseCount raw), after.octet (q.base + i) = raw.octet (20 + i)
  /-- The block shows success. -/
  status : ∀ b, block = some b → after.octet (b.range.base + 1) = 0x01 ∧
    after.octet (b.range.base + 24) = 0x00 ∧ after.octet (b.range.base + 25) = 0x00
  /-- No other octet is changed. -/
  frame : ∀ a, (r.direction = .input → ∀ d, w.data = some d → ¬ d.Contains a) →
    (∀ q, w.sense = some q → ¬ (q.truncate (Sg.senseCount raw)).Contains a) →
    (∀ b, block = some b → ¬ b.ShowsStatus a) → after.octet a = before.octet a
  size : after.size = before.size
  table : after.table = before.table

/-! ## Sense octets -/

namespace Sg

theorem senseLength_ofOctets (raw : Bytes) : (Header.ofOctets raw).senseLength = senseCount raw := by
  unfold Header.senseLength senseCount Header.ofOctets Bytes.field Header.maxSense
  simp

theorem senseCount_le (raw : Bytes) : senseCount raw ≤ 16 := by
  unfold senseCount
  split <;> omega

theorem length_validSense (raw : Bytes) :
    (Header.ofOctets raw).validSense.length = senseCount raw :=
  (Header.length_validSense _).trans (senseLength_ofOctets raw)

theorem octet_validSense {raw : Bytes} {i : Nat} (hi : i < senseCount raw) :
    Bytes.octet (Header.ofOctets raw).validSense i = raw.octet (20 + i) := by
  have := senseCount_le raw
  unfold Header.validSense
  rw [senseLength_ofOctets, Bytes.octet_take, if_pos hi,
    Bytes.octet_eq_getElem (by rw [Vector.length_toList]; omega)]
  simp [Header.ofOctets, Bytes.field]

end Sg

/-! ## Where the windows of a block are -/

/-- The sense window of a block covers none of its status octets, even if its pointer wrapped. -/
theorem BlockAt.not_showsStatus {m : Memory} {mode : AddressingMode} {srb : FarPtr} {e : Srb.Exec}
    {range q : Range} (h : BlockAt m mode srb e range)
    (hq : m.resolve mode (e.sensePtr srb) e.senseLength.toNat = .ok q) {a : Nat}
    (ha : q.Contains a) : ¬ (Block.mk srb range).ShowsStatus a := by
  have hl := Memory.resolve_len hq
  have h8 := e.cdbLength.toNat_lt
  have h8' := e.senseLength.toNat_lt
  -- A window that wrapped is 64 KiB lower, and no block is that long.
  have hbase : q.base = range.base + 64 + e.cdbLength.toNat ∨
      q.base + 2 ^ 16 = range.base + 64 + e.cdbLength.toNat := by
    by_cases hw : srb.offset.toNat + 64 + e.cdbLength.toNat < 2 ^ 16
    · rw [h.resolve_sense hw] at hq
      cases hq
      exact .inl rfl
    · cases mode with
      | realMode => exact .inr (h.sense_window_wraps (Nat.le_of_not_lt hw) hq)
      | protectedMode =>
        refine absurd (h.offset_lt_of_protected ?_) hw
        unfold Range.Contains Range.stop at ha
        omega
  unfold Range.Contains Range.stop at ha
  unfold Block.ShowsStatus Srb.statusOffset Srb.hostStatusOffset Srb.targetStatusOffset
  dsimp only
  omega

theorem Call.Asks.sense_not_showsStatus {m : Memory} {mode : AddressingMode} {call : Call}
    {r : Request} {block : Option Block} {w : Windows Range} (ha : call.Asks m mode r block)
    (hw : r.Fits m mode w) {q : Range} (hq : w.sense = some q) {a : Nat} (hc : q.Contains a) :
    ∀ b, block = some b → ¬ b.ShowsStatus a := by
  intro b hb
  have hr := hw.resolve_sense hq
  cases ha with
  | submit => cases hb
  | send h =>
    cases hb
    rw [show (Srb.Exec.requestIn _ m _ _).sense.len.toNat = _ from BlockAt.toNat_senseLength _] at hr
    exact h.not_showsStatus hr hc

/-! ## Octet by octet -/

theorem length_inbound {r : Request} (hd : r.direction = .input) (raw : Bytes) :
    (Sg.inbound r raw).length = raw.length - 36 := by
  unfold Sg.inbound
  rw [hd]
  exact List.length_drop

theorem octet_inbound {r : Request} (hd : r.direction = .input) (raw : Bytes) (i : Nat) :
    Bytes.octet (Sg.inbound r raw) i = raw.octet (36 + i) := by
  unfold Sg.inbound
  rw [hd]
  exact Bytes.octet_drop raw 36 i

theorem inbound_of_ne {r : Request} (hd : r.direction ≠ .input) (raw : Bytes) :
    Sg.inbound r raw = [] := by
  unfold Sg.inbound
  split
  · exact absurd ‹_› hd
  all_goals rfl

/-- The memory in which a block was stamped, the windows were filled, and the block was stamped
again. -/
theorem completed {m : Memory} {mode : AddressingMode} {r : Request} {block : Option Block}
    {w : Windows Range} {raw : Bytes} (p : Request) (hb : ∀ b, block = some b → b.Fits m)
    (hw : r.Fits m mode w) (hlen : raw.length = r.expectedReply)
    (hstat : ∀ q, w.sense = some q → ∀ a, q.Contains a → ∀ b, block = some b → ¬ b.ShowsStatus a) :
    Completed m (((m.stamp p block).fill w (Sg.inbound r raw)
      (Sg.Header.ofOctets raw).validSense).stamp (r.settle .complete) block) r block w raw := by
  -- Both stamps change the status octets alone; between them the windows are filled.
  have hb1 : ∀ b, block = some b → b.Fits ((m.stamp p block).fill w (Sg.inbound r raw)
      (Sg.Header.ofOctets raw).validSense) := fun b hb' => (hb b hb').of_size (by simp)
  have hw1 : w.Sound (m.stamp p block) := hw.sound.of_size (by simp)
  refine ⟨fun hdir d hd => ?_, fun q hq => ?_, fun b hb' => ?_, fun a had has hab => ?_, by simp,
    by simp⟩
  · have hdl : d.len = r.data.len.toNat := Memory.resolve_len (hw.resolve_data hd)
    have hrl : raw.length = 36 + d.len := by
      rw [hlen, hdl]
      unfold Request.expectedReply
      rw [hdir]
      rfl
    refine ⟨hdl, hrl, fun i hi hns => ?_⟩
    have hi' : i < min d.len (Sg.inbound r raw).length := by
      rw [length_inbound hdir]
      omega
    rw [Memory.octet_stamp_of_not hb1 _ hns, Memory.octet_fill_data hw1 hd _ hi',
      octet_inbound hdir]
  · refine ⟨Memory.resolve_len (hw.resolve_sense hq), fun i hi => ?_⟩
    have hi' : i < min q.len (Sg.Header.ofOctets raw).validSense.length := by
      rw [Sg.length_validSense]
      exact hi
    have hc : q.Contains (q.base + i) := by
      unfold Range.Contains Range.stop
      omega
    rw [Memory.octet_stamp_of_not hb1 _ (hstat q hq _ hc), Memory.octet_fill_sense hw1 hq _ hi',
      Sg.octet_validSense (by omega)]
  · subst hb'
    have h1 : Srb.statusOffset = 1 := rfl
    have h24 : Srb.hostStatusOffset = 24 := rfl
    have h25 : Srb.targetStatusOffset = 25 := rfl
    refine ⟨?_, ?_, ?_⟩
    · rw [Memory.octet_stamp (hb1 b rfl), if_neg (by omega), if_neg (by omega), if_pos (by omega)]
      rfl
    · rw [Memory.octet_stamp (hb1 b rfl), if_neg (by omega), if_pos (by omega)]
      rfl
    · rw [Memory.octet_stamp (hb1 b rfl), if_pos (by omega)]
      rfl
  · rw [Memory.octet_stamp_of_not hb1 _ hab, Memory.octet_fill_of_not,
      Memory.octet_stamp_of_not hb _ hab]
    · rintro ⟨d, hd, hda, hda'⟩
      by_cases hdir : r.direction = .input
      · refine had hdir d hd ⟨hda, ?_⟩
        unfold Range.stop
        omega
      · rw [inbound_of_ne hdir, List.length_nil] at hda'
        omega
    · rintro ⟨q, hq, hqa, hqa'⟩
      refine has q hq ⟨hqa, ?_⟩
      rw [Sg.length_validSense] at hqa'
      exact hqa'

/-! ## The round trip of a complete request -/

namespace Manager

variable {σ : Type} {m : Manager σ}

theorem answered_of_converse {r : Request} {block : Option Block} {w : Windows Range} {s : State σ}
    {handle : Handle} {raw : Bytes}
    (ha : (m.acquisition r.key s.registry s.world).outcome = .ok handle)
    (hc : (m.host.converse handle.channel
      (r.outbound (s.memory.stamp { r with status := .pending } block) w) r.expectedReply
      (m.acquisition r.key s.registry s.world).world).outcome = .ok (.ok raw)) :
    m.Answered r block w s raw := by
  obtain ⟨world, octets, world', hwrite, hread, hraw⟩ := Host.answers_of_converse hc
  exact ⟨handle, world, world', octets, ha, hwrite, hread, hraw⟩

theorem answered_of_journey {r : Request} {block : Option Block} {w : Windows Range} {s : State σ}
    {handle : Handle} (ha : (m.acquisition r.key s.registry s.world).outcome = .ok handle)
    (h : (m.journey r block w handle s).outcome = .ok .complete) :
    ∃ raw, m.Answered r block w s raw ∧ (m.journey r block w handle s).memory =
      (s.memory.stamp { r with status := .pending } block).fill w (Sg.inbound r raw)
        (Sg.Header.ofOctets raw).validSense := by
  obtain ⟨raw, hc, hm⟩ := trip_complete h
  exact ⟨raw, answered_of_converse ha hc, hm⟩

/-- What the memory is after a call that was to execute a request, is complete, and called no post
routine. -/
theorem complete_memory {mode : AddressingMode} {call : Call} {s t : State σ}
    (hx : call.Executes s.memory mode) (h : (m.perform mode call).exec s = (.ok .complete, t))
    (hs : m.Silent mode call s) :
    ∃ r block w raw, call.Asks s.memory mode r block ∧ r.Fits s.memory mode w ∧
      m.Answered r block w s raw ∧ Completed s.memory t.memory r block w raw := by
  by_cases ha : ∃ r block, call.Asks s.memory mode r block
  · obtain ⟨r, block, ha⟩ := ha
    rcases perform_ok ha h with ⟨hst, -⟩ | ⟨w, e, hst, -⟩ | ⟨w, handle, hw, hacq, hj, ht⟩
    · cases hst
    · cases hst
    · obtain ⟨raw, hans, hmem⟩ := answered_of_journey hacq hj
      obtain ⟨es, rfl⟩ := ht hs
      refine ⟨r, block, w, raw, ha, hw, hans, ?_⟩
      have hlen : raw.length = r.expectedReply := by
        obtain ⟨-, -, -, octets, -, -, -, rfl⟩ := hans
        exact Bytes.length_fit _ _
      have hc := completed { r with status := .pending } ha.fits hw hlen
        fun q hq a hqa => ha.sense_not_showsStatus hw hq hqa
      rw [← hmem] at hc
      exact hc
  · obtain ⟨o, memory, es, ho, hp⟩ := m.perform_of_not ha
    have h' := (hp m.routine).symm.trans h
    rw [ho hx] at h'
    cases h'

end Manager

/-- A reply with the payload `deadbeef` and 10 octets of sense data. -/
def notedReply : Bytes :=
  Bytes.zeros 20 ++ [0x70, 0, 6, 0, 0, 0, 0, 2, 0, 0, 0, 0, 0x29, 0, 0, 0] ++
    [0xDE, 0xAD, 0xBE, 0xEF]

/-- A block at `0000:0010` that reads 4 octets over its own front. -/
def selfRead : Srb.Draft := (readyDraft.flags ⟨8⟩).data ⟨⟨0, 16⟩, 4⟩

theorem blockAt_selfRead : BlockAt ((Memory.zeroed 256).put 16 selfRead.build) .realMode ⟨0, 16⟩
    selfRead.header ⟨16, 84⟩ :=
  BlockAt.of_draft (by decide) rfl (by decide +kernel) rfl

/-- The memory after the block that reads over its own front is known. -/
theorem self_read_completed :
    let m := Manager.constant notedReply
    let s := State.initial ((Memory.zeroed 256).put 16 selfRead.build)
    let call := Call.send ⟨0, 16⟩
    call.Executes s.memory .realMode ∧ m.Silent .realMode call s ∧
      ∃ t, (m.perform .realMode call).exec s = (.ok .complete, t) ∧
        ∃ r block w raw, call.Asks s.memory .realMode r block ∧ r.Fits s.memory .realMode w ∧
          m.Answered r block w s raw ∧ Completed s.memory t.memory r block w raw := by
  intro m s call
  have hb : BlockAt s.memory .realMode ⟨0, 16⟩ selfRead.header ⟨16, 84⟩ := blockAt_selfRead
  have hs : m.Silent .realMode call s := Manager.silent_of_not_posting (.send hb) (by decide)
  have hok : ((m.perform .realMode call).exec s).1.toOption = some .complete := by decide +kernel
  refine ⟨hb.executes, hs, ?_⟩
  rcases hx : (m.perform .realMode call).exec s with ⟨e | st, t⟩
  · rw [hx] at hok
    cases hok
  · rw [hx] at hok
    cases hok
    exact ⟨t, rfl, Manager.complete_memory hb.executes hx hs⟩

end AspiManager
