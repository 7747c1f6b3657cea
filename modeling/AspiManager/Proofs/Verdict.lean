import AspiManager.Proofs.Call

/-!
# The status that a request ends with

`Manager.verdict` decides the status of a request from the state in which it is handed over: its
shape, then its device, then the length of its reply, then what the host answers to the one write
and the one read. `submit_verdict` says that a request ends with its verdict, whatever it is.
-/

namespace AspiManager

/-! ## The decision -/

/-- The device is held elsewhere: the kinds, and the numbers that mean them. -/
def IoError.HeldElsewhere (e : IoError) : Prop :=
  e = .kind .resourceBusy ∨ e = .kind .wouldBlock ∨ e = .number 16 ∨ e = .number 11

instance (e : IoError) : Decidable e.HeldElsewhere := inferInstanceAs (Decidable (_ ∨ _ ∨ _ ∨ _))

theorem IoError.isBusy_iff {e : IoError} : e.isBusy = true ↔ e.HeldElsewhere := by
  simp only [isBusy, HeldElsewhere, Bool.or_eq_true, beq_iff_eq, or_assoc]

namespace Host

variable {σ : Type}

/-- The host never breaks down, whatever it answers. -/
def Steady (h : Host σ) : Prop :=
  (∀ channel octets w, (h.write channel octets w).1 ≠ .crashed) ∧
    ∀ channel count w, (h.read channel count w).1 ≠ .crashed

/-- The status that the answers to a write and a read of `count` octets mean. -/
def finding (h : Host σ) (channel : Nat) (message : Bytes) (count : Nat) (w : σ) : Status :=
  match h.write channel message w with
  | (.failed e, _) => if e.HeldElsewhere then .busy else .failed
  | (.crashed, _) => .failed
  | (.done n, w) =>
    if n ≠ message.length then .failed
    else match h.read channel count w with
      | (.failed e, _) => if e.HeldElsewhere then .busy else .failed
      | (.crashed, _) => .failed
      | (.done (n, octets), _) =>
        if n = count ∧ (Bytes.fit count octets).int32 12 = 0 then .complete else .failed

end Host

/-- The octets that a request has for its device: those of its data buffer if it is a write. -/
def Request.outgoing (r : Request) (m : Memory) (mode : AddressingMode) : Bytes :=
  if r.direction = .output ∧ 0 < r.data.len.toNat then
    match m.resolve mode r.data.ptr r.data.len.toNat with
    | .ok d => m.read d.base d.len
    | .error _ => []
  else []

namespace Manager

variable {σ : Type}

/-- The status that a request ends with. -/
def verdict (m : Manager σ) (mode : AddressingMode) (r : Request) (s : State σ) : Status :=
  if r.Unfit s.memory mode then .invalid
  else
    let a := m.acquisition r.key s.registry s.world
    match a.outcome with
    | .error _ => .failed
    | .ok handle =>
      let expected := if r.direction = .input then 36 + r.data.len.toNat else 36
      if 2 ^ 31 - 1 < expected then .invalid
      else m.host.finding handle.channel
        ((Sg.Message.announce expected).encode ++ r.cdb ++ r.outgoing s.memory mode) expected
        a.world

/-! ## Its two readings agree -/

theorem expectedReply_eq (r : Request) :
    r.expectedReply = if r.direction = .input then 36 + r.data.len.toNat else 36 := by
  unfold Request.expectedReply Sg.Header.length
  cases r.direction <;> rfl

theorem payload_eq_outgoing {r : Request} {m : Memory} {mode : AddressingMode} {w : Windows Range}
    (hw : r.Fits m mode w) : m.payload r w = r.outgoing m mode := by
  have hd := hw.data
  unfold Memory.payload Request.outgoing
  cases hdir : r.direction with
  | input | both | unchecked => simp
  | output =>
    cases hwd : w.data with
    | none =>
      rw [hwd] at hd
      rw [if_neg fun h => hd.not_needed ⟨.inr hdir, h.2⟩]
    | some d =>
      rw [hwd] at hd
      rw [if_pos ⟨rfl, hd.needed_of_some.2⟩, hd.resolved]

variable {m : Manager σ}

/-- With a steady host a round trip ends with what the answers mean. -/
theorem trip_outcome (hh : m.host.Steady) (channel : Nat) (r : Request) (w : Windows Range)
    (memory : Memory) (world : σ) :
    (m.trip channel r w memory world).outcome =
      .ok (if r.TooLong then .invalid
        else m.host.finding channel (r.outbound memory w) r.expectedReply world) := by
  unfold trip
  by_cases hl : r.TooLong
  · rw [if_pos hl, if_pos hl]
  rw [if_neg hl, if_neg hl]
  have hwr := hh.1 channel (r.outbound memory w) world
  unfold Host.converse Host.finding
  generalize m.host.write channel (r.outbound memory w) world = answer at hwr ⊢
  rcases answer with ⟨n | e | _, world'⟩
  · dsimp only
    by_cases hn : n = (r.outbound memory w).length
    · rw [if_pos hn, if_neg (not_not_intro hn)]
      have hrd := hh.2 channel r.expectedReply world'
      unfold Host.listen
      generalize m.host.read channel r.expectedReply world' = answer at hrd ⊢
      rcases answer with ⟨⟨k, octets⟩ | e | _, world''⟩
      · dsimp only
        by_cases hk : k = r.expectedReply
        · rw [if_pos hk]
          by_cases hr : (Bytes.fit r.expectedReply octets).int32 12 = 0
          · simp [hk, hr]
          · simp [hr]
        · simp [hk, TransferError.isBusy]
      · simp [TransferError.isBusy, IoError.isBusy_iff]
      · exact absurd rfl hrd
    · simp [hn, TransferError.isBusy]
  · simp [TransferError.isBusy, IoError.isBusy_iff]
  · exact absurd rfl hwr

variable {mode : AddressingMode} {r : Request} {s : State σ} {w : Windows Range} {handle : Handle}

/-- The verdict of a request that is carried out is the outcome of its round trip. -/
theorem journey_outcome (hh : m.host.Steady) (hw : r.Fits s.memory mode w)
    (ha : (m.acquisition r.key s.registry s.world).outcome = .ok handle) :
    (m.journey r none w handle s).outcome = .ok (m.verdict mode r s) := by
  unfold journey verdict
  rw [trip_outcome hh, if_neg hw.not_unfit]
  dsimp only [Memory.stamp]
  rw [ha]
  dsimp only
  rw [← expectedReply_eq, ← payload_eq_outgoing hw]
  by_cases hl : r.TooLong
  · rw [if_pos hl, if_pos (show 2 ^ 31 - 1 < r.expectedReply from hl)]
  · rw [if_neg hl, if_neg (show ¬ 2 ^ 31 - 1 < r.expectedReply from hl)]
    rfl

/-- A request that is handed over ends with its verdict. Only a post routine that breaks down
keeps it from being returned. -/
theorem submit_verdict (m : Manager σ) (hh : m.host.Steady) (mode : AddressingMode) (r : Request)
    (s : State σ) :
    (∃ q t, (m.submit mode r).exec s = (.ok q, t) ∧ q.status = m.verdict mode r s ∧
      q = r.settle q.status) ∨
    ∃ n call u f t, (m.routine n call).exec u = (.error f, t) ∧
      (m.submit mode r).exec s = (.error f, t) := by
  have hb : ∀ b, (none : Option Block) = some b → b.Fits s.memory := by simp
  by_cases hu : r.Unfit s.memory mode
  · obtain ⟨es, he⟩ := m.execute_rejected hb hu
    refine .inl ⟨_, _, he m.routine, ?_, by rw [status_settle]⟩
    rw [status_settle, verdict, if_pos hu]
  obtain ⟨w, hw⟩ := Request.exists_fits hu
  cases ha : (m.acquisition r.key s.registry s.world).outcome with
  | error e =>
    obtain ⟨es, he⟩ := m.execute_unavailable hb hw ha
    refine .inl ⟨_, _, he m.routine, ?_, by rw [status_settle]⟩
    rw [status_settle, verdict, if_neg hu]
    dsimp only
    rw [ha]
  | ok handle =>
    obtain ⟨es, he⟩ := m.execute_carried hb hw ha
    rw [journey_outcome hh hw ha] at he
    dsimp only at he
    rcases returned_cases m mode (r.settle (m.verdict mode r s)) none _ with
      ⟨es', hn⟩ | ⟨n, call, u, hn⟩
    · refine .inl ⟨_, _, (he m.routine).trans (hn m.routine), ?_, by rw [status_settle]⟩
      rw [status_settle]
    · have hx := hn m.routine
      rcases hr : (m.routine n call).exec u with ⟨f | _, t⟩
      · rw [hr] at hx
        exact .inr ⟨n, call, u, f, t, hr, (he m.routine).trans hx⟩
      · rw [hr] at hx
        obtain ⟨q, t', hq⟩ := hx
        obtain rfl := eq_of_returned m mode _ hq
        refine .inl ⟨_, _, (he m.routine).trans hq, ?_, by rw [status_settle]⟩
        rw [status_settle]

end Manager

theorem Host.steady_constant (reply : Bytes) : (Host.constant reply).Steady := by
  refine ⟨fun _ _ _ h => ?_, fun _ _ _ h => ?_⟩ <;> cases h

/-- With a host that answers zeros the short read is complete. -/
theorem short_read_verdict :
    let m := Manager.constant (Bytes.zeros 40)
    let s := State.initial (.zeroed 256)
    m.host.Steady ∧ m.verdict .realMode shortRead s = .complete ∧
      ∃ q t, (m.submit .realMode shortRead).exec s = (.ok q, t) ∧ q.status = .complete := by
  intro m s
  have hh : m.host.Steady := Host.steady_constant _
  have hv : m.verdict .realMode shortRead s = .complete := by decide
  refine ⟨hh, hv, ?_⟩
  rcases m.submit_verdict hh .realMode shortRead s with ⟨q, t, he, hq, -⟩ | ⟨n, call, u, f, t, hr, -⟩
  · exact ⟨q, t, he, hq.trans hv⟩
  · cases hr

end AspiManager
