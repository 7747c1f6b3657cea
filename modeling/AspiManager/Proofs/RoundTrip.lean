import AspiManager.Proofs.Delivery

/-!
# Round trips

What the round trip of a request over an open channel comes to, as a function of the memory and of
the host's state: `Manager.trip` and `roundTrip_exec`.
-/

namespace AspiManager

/-! ## The message -/

/-- The octets of the data window, if they move to the device. -/
def Memory.payload (m : Memory) (r : Request) (w : Windows Range) : Bytes :=
  match r.direction, w.data with
  | .output, some d => m.read d.base d.len
  | _, _ => []

namespace Request

/-- What is written to the device: a header that announces the reply, the command block, and the
data for the device. -/
def outbound (r : Request) (m : Memory) (w : Windows Range) : Bytes :=
  (Sg.Message.announce r.expectedReply).encode ++ r.cdb ++ m.payload r w

/-- The reply is too long to be announced. -/
def TooLong (r : Request) : Prop := Sg.Message.maxReply < r.expectedReply

instance (r : Request) : Decidable r.TooLong := inferInstanceAs (Decidable (_ < _))

theorem tooLong_iff {r : Request} :
    r.TooLong ↔ r.direction = .input ∧ 2 ^ 31 - 1 < 36 + r.data.len.toNat := by
  unfold TooLong expectedReply Sg.Message.maxReply Sg.Header.length
  cases r.direction <;> simp

theorem length_le_expectedReply (r : Request) : Sg.Header.length ≤ r.expectedReply := by
  unfold expectedReply
  cases r.direction with
  | input => exact Nat.le_add_right _ _
  | output | both | unchecked => exact Nat.le_refl _

theorem message_payload {r : Request} (hc : r.checkCommand = .ok ()) (m : Memory)
    (w : Windows Range) :
    r.message (m.payload r w) =
      if r.TooLong then .error (.malformed .dataTooLong)
      else .ok ⟨r.outbound m w, r.expectedReply⟩ := by
  unfold message Sg.Message.assemble?
  rw [hc]
  dsimp only [bind, Except.bind]
  by_cases h : r.TooLong
  · rw [if_pos h, if_neg (Nat.not_le.mpr h)]
  · rw [if_neg h, if_pos (Nat.not_lt.mp h)]
    unfold outbound Memory.payload
    cases r.direction <;> rfl

end Request

/-! ## The trip -/

/-- What a round trip comes to: the status that the request gets, and what is left behind. -/
structure Trip (σ : Type) where
  outcome : Except Fault Status
  memory : Memory
  world : σ
  effects : List Effect

/-- The state in which a round trip leaves a run that has reported `es` by then. -/
def State.travelled {σ : Type} (s : State σ) (t : Trip σ) (es : Array Log.Event) : State σ :=
  { s with memory := t.memory, world := t.world, events := es, effects := s.effects ++ t.effects }

namespace Sg

/-- The octets of a reply that go to the data window of a request. -/
def inbound (r : Request) (raw : Bytes) : Bytes :=
  match r.direction with
  | .input => raw.drop Header.length
  | .output | .both | .unchecked => []

end Sg

namespace Manager

variable {σ : Type}

/-- The round trip of a request with resolved windows over a channel. -/
def trip (m : Manager σ) (channel : Nat) (r : Request) (w : Windows Range) (memory : Memory)
    (world : σ) : Trip σ :=
  if r.TooLong then ⟨.ok .invalid, memory, world, []⟩
  else
    let c := m.host.converse channel (r.outbound memory w) r.expectedReply world
    match c.outcome with
    | .error f => ⟨.error f, memory, c.world, c.effects⟩
    | .ok (.error e) => ⟨.ok (if e.isBusy then .busy else .failed), memory, c.world, c.effects⟩
    | .ok (.ok raw) =>
      if raw.int32 12 = 0 then
        ⟨.ok .complete, memory.fill w (Sg.inbound r raw) (Sg.Header.ofOctets raw).validSense,
          c.world, c.effects⟩
      else ⟨.ok .failed, memory, c.world, c.effects⟩

/-- A trip leaves the memory as it was, or fills the windows. -/
theorem memory_trip (m : Manager σ) (channel : Nat) (r : Request) (w : Windows Range)
    (memory : Memory) (world : σ) :
    (m.trip channel r w memory world).memory = memory ∨
      ∃ data sense, (m.trip channel r w memory world).memory = memory.fill w data sense := by
  unfold trip
  split
  · exact .inl rfl
  · dsimp only
    split
    · exact .inl rfl
    · exact .inl rfl
    · split
      · exact .inr ⟨_, _, rfl⟩
      · exact .inl rfl

theorem size_trip (m : Manager σ) (channel : Nat) (r : Request) (w : Windows Range)
    (memory : Memory) (world : σ) :
    (m.trip channel r w memory world).memory.size = memory.size := by
  rcases m.memory_trip channel r w memory world with h | ⟨data, sense, h⟩
  · rw [h]
  · rw [h, Memory.size_fill]

theorem table_trip (m : Manager σ) (channel : Nat) (r : Request) (w : Windows Range)
    (memory : Memory) (world : σ) :
    (m.trip channel r w memory world).memory.table = memory.table := by
  rcases m.memory_trip channel r w memory world with h | ⟨data, sense, h⟩
  · rw [h]
  · rw [h, Memory.table_fill]

/-- A trip that is complete fills the windows with the reply. -/
theorem trip_complete {m : Manager σ} {channel : Nat} {r : Request} {w : Windows Range}
    {memory : Memory} {world : σ}
    (h : (m.trip channel r w memory world).outcome = .ok .complete) :
    ∃ raw, (m.host.converse channel (r.outbound memory w) r.expectedReply world).outcome =
        .ok (.ok raw) ∧
      (m.trip channel r w memory world).memory =
        memory.fill w (Sg.inbound r raw) (Sg.Header.ofOctets raw).validSense := by
  unfold trip at h ⊢
  by_cases hl : r.TooLong
  · rw [if_pos hl] at h
    cases h
  rw [if_neg hl] at h ⊢
  dsimp only at h ⊢
  rcases hc : (m.host.converse channel (r.outbound memory w) r.expectedReply world).outcome with
    f | e | raw <;> rw [hc] at h <;> dsimp only at h
  · cases h
  · split at h <;> cases h
  · by_cases hr : raw.int32 12 = 0
    · dsimp only
      rw [if_pos hr]
      exact ⟨raw, rfl, rfl⟩
    · rw [if_neg hr] at h
      cases h

/-- A reply with the result zero fills the windows. -/
theorem memory_trip_of_reply (m : Manager σ) {channel : Nat} {r : Request} {w : Windows Range}
    {memory : Memory} {world : σ} {raw : Bytes} (hl : ¬ r.TooLong)
    (hc : (m.host.converse channel (r.outbound memory w) r.expectedReply world).outcome =
      .ok (.ok raw)) (hr : raw.int32 12 = 0) :
    (m.trip channel r w memory world).memory =
      memory.fill w (Sg.inbound r raw) (Sg.Header.ofOctets raw).validSense := by
  unfold trip
  rw [if_neg hl]
  dsimp only
  rw [hc]
  dsimp only
  rw [if_pos hr]

/-- The device of a trip that is complete reports no failure. -/
theorem result_of_trip {m : Manager σ} {channel : Nat} {r : Request} {w : Windows Range}
    {memory : Memory} {world : σ} {raw : Bytes}
    (hc : (m.host.converse channel (r.outbound memory w) r.expectedReply world).outcome =
      .ok (.ok raw))
    (h : (m.trip channel r w memory world).outcome = .ok .complete) : raw.int32 12 = 0 := by
  unfold trip at h
  by_cases hl : r.TooLong
  · rw [if_pos hl] at h
    cases h
  rw [if_neg hl] at h
  dsimp only at h
  rw [hc] at h
  dsimp only at h
  by_cases hr : raw.int32 12 = 0
  · exact hr
  · rw [if_neg hr] at h
    cases h

variable {s : State σ} {w : Windows Range}

theorem payload_exec (hw : w.Sound s.memory) (r : Request) :
    (payload r w : Run σ Bytes).exec s = (.ok (s.memory.payload r w), s) := by
  unfold payload Memory.payload
  cases r.direction with
  | output =>
    cases hd : w.data with
    | none => rfl
    | some d => rw [Run.exec_slice, Memory.slice_ok (hw.data d hd).2]
  | input | both | unchecked => rfl

/-- What is made of what a device answers: a reply is delivered into windows that hold `given`. -/
def receive (r : Request) (given : Windows Bytes) :
    Except TransferError Bytes → Except RequestError Delivery
  | .error e => .error (.transfer e)
  | .ok raw =>
    if raw.int32 12 = 0 then .ok (Delivery.deliver (.ofOctets raw) r given).1
    else .error (.device (raw.int32 12))

/-- A run of `roundTrip` for a reply that can be announced is a conversation, whose outcome is
received. -/
theorem roundTrip_exec_of_short (m : Manager σ) (handle : Handle) {r : Request}
    (hc : r.checkCommand = .ok ()) (hw : w.Sound s.memory) (hl : ¬ r.TooLong) :
    ∃ es, (m.roundTrip handle r w).exec s =
      ((m.host.converse handle.channel (r.outbound s.memory w) r.expectedReply s.world).outcome.map
          (receive r (s.memory.octetsIn w)),
        s.travelled (m.trip handle.channel r w s.memory s.world) es) := by
  unfold roundTrip trip State.travelled
  rw [Run.exec_bind_ok (payload_exec hw r), Request.message_payload hc, if_neg hl, if_neg hl]
  obtain ⟨es, hx⟩ := m.exchange_exec handle.channel ⟨r.outbound s.memory w, r.expectedReply⟩
    r.length_le_expectedReply s
  dsimp only at hx ⊢
  rw [Run.exec_bind, hx]
  generalize m.host.converse handle.channel (r.outbound s.memory w) r.expectedReply s.world = c
  rcases c with ⟨f | e | raw, world, effects⟩
  · exact ⟨es, rfl⟩
  · exact ⟨es, rfl⟩
  dsimp only [Except.map, receive]
  let talked : State σ := { s with world := world, events := es, effects := s.effects ++ effects }
  by_cases hr : raw.int32 12 = 0
  · rw [if_pos hr, if_pos hr]
    exact ⟨es, deliver_exec_of_eq talked hw r (Sg.Reply.ofOctets raw) hr⟩
  · rw [if_neg hr, if_neg hr]
    exact ⟨es.push (resultWarning (raw.int32 12)),
      deliver_exec_of_ne talked hw r (Sg.Reply.ofOctets raw) hr⟩

theorem outcomeStatus_receive (r : Request) (given : Windows Bytes)
    (answer : Except TransferError Bytes) :
    outcomeStatus (receive r given answer) = match answer with
      | .error e => if e.isBusy then .busy else .failed
      | .ok raw => if raw.int32 12 = 0 then .complete else .failed := by
  rcases answer with e | raw
  · rfl
  · dsimp only [receive]
    by_cases hr : raw.int32 12 = 0
    · have hresult : (Sg.Reply.ofOctets raw).result = 0 := hr
      rw [if_pos hr, if_pos hr]
      exact Delivery.status_deliver hresult r given
    · rw [if_neg hr, if_neg hr]
      rfl

/-- A run of `roundTrip` comes to the trip. -/
theorem roundTrip_exec (m : Manager σ) (handle : Handle) {r : Request}
    (hc : r.checkCommand = .ok ()) (hw : w.Sound s.memory) :
    ∃ es o, (m.roundTrip handle r w).exec s =
        (o, s.travelled (m.trip handle.channel r w s.memory s.world) es) ∧
      o.map outcomeStatus = (m.trip handle.channel r w s.memory s.world).outcome := by
  by_cases hl : r.TooLong
  · refine ⟨s.events, .ok (.error (.malformed .dataTooLong)), ?_, ?_⟩ <;>
      unfold trip <;> rw [if_pos hl]
    · unfold roundTrip
      rw [Run.exec_bind_ok (payload_exec hw r), Request.message_payload hc, if_pos hl]
      simp [State.travelled]
    · rfl
  obtain ⟨es, hx⟩ := m.roundTrip_exec_of_short handle hc hw hl
  refine ⟨es, _, hx, ?_⟩
  unfold trip
  rw [if_neg hl]
  dsimp only
  rcases (m.host.converse handle.channel (r.outbound s.memory w) r.expectedReply s.world).outcome
    with f | answer
  · rfl
  · refine (congrArg Except.ok (outcomeStatus_receive r (s.memory.octetsIn w) answer)).trans ?_
    rcases answer with e | raw
    · rfl
    · dsimp only
      split <;> rfl

end Manager

end AspiManager
