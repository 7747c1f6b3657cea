import AspiManager.Proofs.SenseArea
import AspiManager.Proofs.Turn
import AspiManager.Proofs.Verdict

/-!
# Memory after failure

A call that is not complete and has no post routine called leaves the memory as it was
(`failed_memory`): a request that was handed over changes nothing, and a block shows its status in
one octet and nothing else. On the way to a failure the block shows that its request is pending, and
the host and target status are written back too; the lemmas on `Memory.stamp` say that none of this
is left to be seen.
-/

namespace AspiManager

/-! ## Stamps that leave no trace -/

namespace Memory

variable {m : Memory} {block : Option Block}

/-- The status octets of the later request are the ones that stay. -/
theorem stamp_stamp (hb : ∀ b, block = some b → b.Fits m) (r q : Request) :
    (m.stamp r block).stamp q block = m.stamp q block := by
  cases block with
  | none => rfl
  | some b =>
    have hf := hb b rfl
    have hf' : b.Fits (m.stamp r (some b)) := hf.of_size (size_stamp ..)
    refine ext_octet (by simp) (by simp) fun a => ?_
    rw [octet_stamp hf', octet_stamp hf, octet_stamp hf]
    split
    · rfl
    split
    · rfl
    split <;> rfl

end Memory

theorem Srb.Exec.statuses_of_parse? {bs : Bytes} {e : Srb.Exec} (h : parse? bs = some e) :
    e.hostStatus = bs.octet hostStatusOffset ∧ e.targetStatus = bs.octet targetStatusOffset := by
  unfold parse? at h
  split at h
  · cases h
  · cases h
    exact ⟨rfl, rfl⟩

/-- A request with the host and target status of its block changes one octet of the block. -/
theorem BlockAt.stamp_eq {m : Memory} {mode : AddressingMode} {srb : FarPtr} {e : Srb.Exec}
    {range : Range} (h : BlockAt m mode srb e range) {r : Request}
    (hh : r.hostStatus = e.hostStatus) (ht : r.targetStatus = e.targetStatus) :
    m.stamp r (some ⟨srb, range⟩) =
      m.put (range.base + Srb.statusOffset) [r.status.toByte] := by
  obtain ⟨he, het⟩ := Srb.Exec.statuses_of_parse? h.parsed
  have hs : range.base + 64 ≤ m.size := by
    have hl := h.len_eq
    have h64 := e.fixedLength_le
    have := h.stop_le
    unfold Range.stop at this
    unfold Srb.Exec.fixedLength at h64
    omega
  rw [Memory.octet_read, if_pos (by decide)] at he het
  refine Memory.ext_octet (by simp) (by simp) fun a => ?_
  rw [Memory.octet_stamp h.fits, Memory.octet_put_one]
  dsimp only
  unfold Srb.statusOffset Srb.hostStatusOffset Srb.targetStatusOffset at *
  by_cases h25 : a = range.base + 25
  · rw [if_pos h25, if_neg (by omega), ht, het, h25]
  rw [if_neg h25]
  by_cases h24 : a = range.base + 24
  · rw [if_pos h24, if_neg (by omega), hh, he, h24]
  rw [if_neg h24]
  by_cases h1 : a = range.base + 1
  · rw [if_pos h1, if_pos ⟨h1, by omega⟩]
  · rw [if_neg h1, if_neg fun hc => h1 hc.1]

theorem Request.settle_of_ne {st : Status} (h : st ≠ .complete) (r : Request) :
    r.settle st = { r with status := st } := by
  cases st with
  | complete => exact absurd rfl h
  | pending | failed | invalid | busy => rfl

/-- A request that did not succeed changes at most the status octet of its block. -/
theorem Call.Asks.stamp_eq {m : Memory} {mode : AddressingMode} {call : Call} {r : Request}
    {block : Option Block} (ha : call.Asks m mode r block) {st : Status} (h : st ≠ .complete) :
    m.stamp (r.settle st) block = m ∧ block = none ∨
      ∃ srb e range, call = .send srb ∧ BlockAt m mode srb e range ∧
        m.stamp (r.settle st) block = m.put (range.base + Srb.statusOffset) [st.toByte] := by
  rw [Request.settle_of_ne h]
  cases ha with
  | submit r => exact .inl ⟨rfl, rfl⟩
  | send hb => exact .inr ⟨_, _, _, rfl, hb, hb.stamp_eq rfl rfl⟩

/-! ## What a turn leaves -/

/-- The memories differ at most at the status octet of a block that is sent. -/
inductive Call.StatusOnly (call : Call) (mode : AddressingMode) (before : Memory) : Memory → Prop
  /-- They are the same. -/
  | same : StatusOnly call mode before before
  /-- The octet behind the first one of the block is another one. -/
  | shown {srb : FarPtr} {header : Range} (b : UInt8) (hc : call = .send srb)
    (hr : before.resolve mode srb Srb.Header.length = .ok header) :
    StatusOnly call mode before (before.put (header.base + Srb.statusOffset) [b])

namespace Manager

variable {σ : Type} {m : Manager σ} {mode : AddressingMode} {call : Call} {s : State σ}

theorem trip_memory_of_ne {channel : Nat} {r : Request} {w : Windows Range} {memory : Memory}
    {world : σ} {st : Status} (h : (m.trip channel r w memory world).outcome = .ok st)
    (hst : st ≠ .complete) : (m.trip channel r w memory world).memory = memory := by
  unfold trip at h ⊢
  by_cases hl : r.TooLong
  · rw [if_pos hl]
  rw [if_neg hl] at h ⊢
  dsimp only at h ⊢
  rcases hc : (m.host.converse channel (r.outbound memory w) r.expectedReply world).outcome with
    f | e | raw
  · rfl
  · rfl
  · rw [hc] at h
    by_cases hr : raw.int32 12 = 0
    · dsimp only at h
      rw [if_pos hr] at h
      cases h
      exact absurd rfl hst
    · dsimp only
      rw [if_neg hr]

/-- Whatever failed, and wherever, only the status of the block is left to be seen. -/
theorem Turn.statusOnly {st : Status} {u : State σ} {p : Option Posting}
    (h : m.Turn mode call s (.ok st) u p) (hst : st ≠ .complete) :
    call.StatusOnly mode s.memory u.memory := by
  have hstamp : ∀ {r block}, call.Asks s.memory mode r block →
      call.StatusOnly mode s.memory (s.memory.stamp (r.settle st) block) := by
    intro r block ha
    rcases ha.stamp_eq hst with ⟨he, -⟩ | ⟨srb, e, range, hc, hb, he⟩
    · rw [he]
      exact .same
    · rw [he]
      exact @Call.StatusOnly.shown _ _ _ _ ⟨range.base, Srb.Header.length⟩ _ hc hb.resolve_header
  cases h with
  | aside es hc hn ha =>
    cases ha with
    | refused => exact .same
    | @rejected fixed hr =>
      have hheader : s.memory.resolve mode _ Srb.Header.length = .ok ⟨fixed.base, _⟩ :=
        Memory.resolve_narrow hr (by decide)
      exact @Call.StatusOnly.shown _ _ _ _ ⟨fixed.base, Srb.Header.length⟩ _ hc hheader
    | answered => exact absurd rfl hst
  | rejected es ha hu => exact hstamp ha
  | unavailable es ha hw hd => exact hstamp ha
  | @settled r block w handle _ es ha hw hd hj =>
    -- The round trip left the memory in which the request was pending.
    have hm : (m.journey r block w handle s).memory =
        s.memory.stamp { r with status := .pending } block := trip_memory_of_ne hj hst
    have hu : (m.settlement r block w handle s st es).memory =
        s.memory.stamp (r.settle st) block := by
      show ((m.journey r block w handle s).memory).stamp (r.settle st) block = _
      rw [hm, Memory.stamp_stamp ha.fits]
    rw [hu]
    exact hstamp ha

/-! ## The run -/

/-- With a steady host a turn has a status. -/
theorem Turn.exists_status {o : Except Fault Status} {u : State σ} {p : Option Posting}
    (h : m.Turn mode call s o u p) (hh : m.host.Steady) : ∃ st, o = .ok st := by
  cases h with
  | aside | rejected | unavailable | settled => exact ⟨_, rfl⟩
  | crashed es ha hw hd hj =>
    unfold journey at hj
    rw [trip_outcome hh] at hj
    cases hj

/-- A call that calls no post routine returns a status, and unless that says that it is complete,
the memory and the table are what they were, but for the status octet of the block that was sent. A
request that was handed over changes nothing at all. -/
theorem failed_memory (m : Manager σ) (hh : m.host.Steady) (hs : m.Silent mode call s) :
    ∃ st t, (m.perform mode call).exec s = (.ok st, t) ∧ (st ≠ .complete →
      t.memory.size = s.memory.size ∧ t.memory.table = s.memory.table ∧
      (∀ r, call = .submit r → t.memory = s.memory) ∧
      ∀ a, t.memory.octet a ≠ s.memory.octet a → ∃ srb header, call = .send srb ∧
        s.memory.resolve mode srb Srb.Header.length = .ok header ∧ a = header.base + 1) := by
  obtain ⟨o, t, ht, hx⟩ := exec_of_silent hs
  obtain ⟨st, rfl⟩ := ht.exists_status hh
  refine ⟨st, t, hx, fun hst => ?_⟩
  have hm := ht.statusOnly hst
  generalize t.memory = after at hm ⊢
  cases hm with
  | same => exact ⟨rfl, rfl, fun _ _ => rfl, fun a h => absurd rfl h⟩
  | @shown srb header b hc hr =>
    refine ⟨Memory.size_put .., Memory.table_put .., ?_, fun a h => ⟨srb, header, hc, hr, ?_⟩⟩
    · rintro r rfl
      cases hc
    · rw [Memory.octet_put_one] at h
      by_cases ha : a = header.base + 1
      · exact ha
      · exact absurd (if_neg fun hp => ha hp.1) h

end Manager

/-- The block at `0000:0010` fails on a device that reports a result, and only octet 17 tells. -/
theorem ready_failed_memory :
    let m := Manager.constant (Bytes.zeros 12 ++ [5] ++ Bytes.zeros 23)
    let s := State.initial ((Memory.zeroed 256).put 16 readyDraft.build)
    m.host.Steady ∧ m.Silent .realMode (.send ⟨0, 16⟩) s ∧
      ∃ t, (m.perform .realMode (.send ⟨0, 16⟩)).exec s = (.ok .failed, t) ∧
        t.memory.table = s.memory.table ∧
        ∀ a, t.memory.octet a ≠ s.memory.octet a → a = 17 := by
  intro m s
  have hb : BlockAt s.memory .realMode ⟨0, 16⟩ readyDraft.header ⟨16, 84⟩ :=
    blockAt_readyDraft rfl
  have hh : m.host.Steady := Host.steady_constant _
  have hs : m.Silent .realMode (.send ⟨0, 16⟩) s :=
    Manager.silent_of_not_posting (.send hb) (by decide)
  have hrun : ((m.perform .realMode (.send ⟨0, 16⟩)).exec s).1.toOption = some .failed := by
    decide +kernel
  obtain ⟨st, t, hx, hm⟩ := m.failed_memory hh hs
  rw [hx] at hrun
  obtain rfl : st = .failed := Option.some.inj hrun
  obtain ⟨-, htable, -, hoctet⟩ := hm (by decide)
  refine ⟨hh, hs, t, hx, htable, fun a ha => ?_⟩
  obtain ⟨srb, header, hc, hr, rfl⟩ := hoctet a ha
  cases hc
  rw [hb.resolve_header] at hr
  cases hr
  rfl

end AspiManager
