import AspiManager.Proofs.Attempts
import AspiManager.Proofs.Failure

/-!
# A host that breaks down in a write

When the device of a request is written to, the block shows that the request is pending, and nothing
else has happened to the memory (`Manager.Writing`). That this is the state in which the write is
made is said by varying the write: whatever it answers, the run goes on from there with
`Manager.rest`.

A write that breaks down leaves this state behind, calls no routine, and ends every run that it is
nested in (`Manager.Interrupted`). The handle is kept, so that the next request for the device finds
it, and comes to what it would have come to if the write had failed.
-/

namespace AspiManager

/-- The memory in which the block, if there is one, shows a status. -/
def Memory.showing (m : Memory) (block : Option Block) (st : Status) : Memory :=
  match block with
  | none => m
  | some b => m.put (b.range.base + Srb.statusOffset) [st.toByte]

/-- A request that did not succeed shows its status in its block and nowhere else. -/
theorem Call.Asks.stamp_showing {m : Memory} {mode : AddressingMode} {call : Call} {r : Request}
    {block : Option Block} (ha : call.Asks m mode r block) {st : Status} (h : st ≠ .complete) :
    m.stamp (r.settle st) block = m.showing block st := by
  rw [Request.settle_of_ne h]
  cases ha with
  | submit r => rfl
  | send hb => exact hb.stamp_eq rfl rfl

/-- The state after a write that left the host in `world`. -/
def State.wrote {σ : Type} (s : State σ) (channel : Nat) (octets : Bytes) (world : σ) : State σ :=
  { s with world := world, effects := s.effects.push (.wrote channel octets) }

namespace Manager

variable {σ : Type}

/-! ## Up to the write -/

/-- The manager with another answer of the channels to what is written. -/
def withWrite (m : Manager σ) (g : Nat → Bytes → σ → Answer Nat × σ) : Manager σ :=
  { m with host := { m.host with write := g } }

/-- The exchange of a message with a device, and the delivery of the reply. -/
def converseFor (m : Manager σ) (q : Request) (w : Windows Range) (handle : Handle)
    (message : Sg.Message) : Run σ (Except RequestError Delivery) := do
  match ← m.exchange handle.channel message message.replyLength with
  | .error e => return .error (.transfer e)
  | .ok reply => deliver q w reply

/-- What is left to do for a pending request when its message is ready: the message is offered to
the channel first of all. -/
def rest (m : Manager σ) (mode : AddressingMode) (q : Request) (block : Option Block)
    (w : Windows Range) (handle : Handle) (message : Sg.Message) : Run σ Request := do
  let outcome ← m.converseFor q w handle message
  let r ← settle q block (outcomeStatus outcome)
  match outcome with
  | .ok d => dumpResult r w d
  | .error _ => pure ()
  m.notify mode r block
  return r

/-- The octets that are written for a request. -/
def written (r : Request) (block : Option Block) (w : Windows Range) (s : State σ) : Bytes :=
  r.outbound (s.memory.stamp { r with status := .pending } block) w

/-- The state in which the message of a request is written. -/
def writing (m : Manager σ) (r : Request) (block : Option Block) (s : State σ)
    (es : Array Log.Event) : State σ :=
  { s.acquired (m.acquisition r.key s.registry s.world) es with
    memory := s.memory.showing block .pending }

variable {m : Manager σ} {mode : AddressingMode} {call : Call} {r : Request}
  {block : Option Block} {w : Windows Range} {handle : Handle} {s : State σ}

theorem Reaches.withWrite (h : m.Reaches mode call s r block w handle)
    (g : Nat → Bytes → σ → Answer Nat × σ) :
    (m.withWrite g).Reaches mode call s r block w handle :=
  ⟨h.asks, h.fits, h.acquired, h.announced⟩

/-- The handle was found, or it is a new one. -/
theorem Reaches.counted (h : m.Reaches mode call s r block w handle) :
    s.registry.find? r.key = some handle ∧
        (m.acquisition r.key s.registry s.world).registry = s.registry.hit ∨
      s.registry.find? r.key = none ∧
        (m.acquisition r.key s.registry s.world).registry =
          s.registry.miss.countOpen.insert handle := by
  have hacq := h.acquired
  have hway : Attempt.Way m ⟨r.key, s.registry, s.world⟩
    (m.acquisition r.key s.registry s.world) := Attempt.way m _
  generalize m.acquisition r.key s.registry s.world = q at hacq hway ⊢
  cases hway with
  | hit hf =>
    cases hacq
    exact .inl ⟨hf, rfl⟩
  | unlisted | shut => cases hacq
  | opened hf =>
    cases hacq
    exact .inr ⟨hf, rfl⟩

/-- A round trip begins with the write of its message. -/
theorem roundTrip_exec_eq (m : Manager σ) (handle : Handle) (hc : r.checkCommand = .ok ())
    (hw : w.Sound s.memory) (hl : ¬ r.TooLong) :
    (m.roundTrip handle r w).exec s =
      (m.converseFor r w handle ⟨r.outbound s.memory w, r.expectedReply⟩).exec s := by
  unfold roundTrip
  rw [Run.exec_bind_ok (payload_exec hw r), Request.message_payload hc, if_neg hl]
  rfl

/-- A request becomes pending, and then its message is written. -/
theorem carryOut_rest (m : Manager σ) (mode : AddressingMode) (handle : Handle)
    (hb : ∀ b, block = some b → b.Fits s.memory) (hc : r.checkCommand = .ok ())
    (hw : w.Sound s.memory) (hl : ¬ r.TooLong) :
    (m.carryOut mode r block w handle).exec s =
      (m.rest mode { r with status := .pending } block w handle
        ⟨written r block w s, r.expectedReply⟩).exec
        (s.stamped { r with status := .pending } block) := by
  let q : Request := { r with status := .pending }
  have hsound : w.Sound (s.stamped q block).memory := hw.of_size (Memory.size_stamp ..)
  unfold carryOut rest
  dsimp only
  rw [Run.exec_bind_ok (writeBack_exec hb q)]
  exact Run.exec_bind_congr (m.roundTrip_exec_eq handle (r := q) hc hsound hl) fun _ _ _ => rfl

/-- The run of a request that gets as far as its device, up to the write. -/
theorem execute_rest (h : m.Reaches mode call s r block w handle) :
    ∃ es, ∀ g f, (((m.withWrite g).withRoutines f).execute mode r block).exec s =
      (((m.withWrite g).withRoutines f).rest mode { r with status := .pending } block w handle
        ⟨written r block w s, r.expectedReply⟩).exec (m.writing r block s es) := by
  obtain ⟨es, hacq⟩ := m.acquire_exec r.key
    { s with events := s.events ++ Log.Dump.request r w.data }
  dsimp only at hacq
  refine ⟨es, fun g f => ?_⟩
  have hacq' : ((m.withWrite g).withRoutines f).acquire r.key = m.acquire r.key := rfl
  unfold execute
  rw [Run.exec_bind_ok (Run.exec_memory s), Request.windows_ok_iff.mpr h.fits]
  dsimp only
  rw [Run.exec_bind_ok (Run.exec_reportAll _ s), hacq', Run.exec_bind_ok hacq, h.acquired]
  dsimp only
  have hstate : m.writing r block s es =
      (s.acquired (m.acquisition r.key s.registry s.world) es).stamped
        { r with status := .pending } block := by
    unfold writing State.stamped
    rw [← h.asks.stamp_showing (by decide)]
    rfl
  rw [hstate]
  exact carryOut_rest _ mode handle (s := s.acquired _ es) h.asks.fits
    (Request.checkCommand_ok_iff.mpr h.fits.command) h.fits.sound h.not_tooLong

/-! ## Writes that go wrong -/

/-- What a request comes to by the answer to a write that did not take all of its message. -/
def cutShort : Answer Nat → Except Fault Status
  | .crashed => .error .device
  | .failed e => .ok (if e.isBusy then .busy else .failed)
  | .done _ => .ok .failed

theorem ne_complete_of_cutShort {a : Answer Nat} {st : Status} (h : cutShort a = .ok st) :
    st ≠ .complete := by
  unfold cutShort at h
  cases a with
  | crashed => cases h
  | done _ => cases h; decide
  | failed e =>
    cases h
    split <;> decide

theorem rest_crashed {q : Request} {message : Sg.Message} {u : State σ} {world : σ}
    (hg : m.host.write handle.channel message.octets u.world = (.crashed, world)) :
    (m.rest mode q block w handle message).exec u =
      (.error .device, u.wrote handle.channel message.octets world) := by
  unfold rest
  refine Run.exec_bind_error ?_ _
  unfold converseFor exchange offer
  simp only [Run.exec_bind, Run.exec_record, Run.exec_host, hg, Run.exec_throw]
  rfl

variable {world : σ} {o : Except Fault Status} {u : State σ} {p : Option Posting}

/-- A round trip that ends with its write leaves the memory in which the request is pending. -/
theorem Reaches.journey_cut (h : m.Reaches mode call s r block w handle) {a : Answer Nat}
    (hg : m.host.write handle.channel (written r block w s)
      (m.acquisition r.key s.registry s.world).world = (a, world))
    (ha : a ≠ .done (written r block w s).length) :
    m.journey r block w handle s = ⟨cutShort a, s.memory.showing block .pending, world,
      [.wrote handle.channel (written r block w s)]⟩ := by
  rw [← h.asks.stamp_showing (by decide)]
  unfold written at hg ha ⊢
  unfold journey trip Host.converse
  rw [if_neg h.not_tooLong, hg]
  cases a with
  | crashed | failed e => rfl
  | done n =>
    dsimp only
    rw [if_neg fun hn => ha (congrArg _ hn)]
    rfl

/-- A turn whose write breaks down leaves the state in which the message was written. -/
theorem Reaches.turn_crashed (h : m.Reaches mode call s r block w handle)
    (hg : m.host.write handle.channel (written r block w s)
      (m.acquisition r.key s.registry s.world).world = (.crashed, world))
    (ht : m.Turn mode call s o u p) :
    o = .error .device ∧
      ∃ es, u = (m.writing r block s es).wrote handle.channel (written r block w s) world := by
  obtain ⟨ho, es, hu⟩ := ht.of_acquired h.asks h.fits h.acquired
  rw [h.journey_cut hg (by simp)] at ho hu
  subst ho
  obtain ⟨-, rfl⟩ := hu
  refine ⟨rfl, es, ?_⟩
  simp [State.travelled, State.wrote, writing, State.acquired]

/-- A turn whose write fails leaves the same state, but that the block shows how it failed. -/
theorem Reaches.turn_failed (h : m.Reaches mode call s r block w handle) {a : Answer Nat}
    (hg : m.host.write handle.channel (written r block w s)
      (m.acquisition r.key s.registry s.world).world = (a, world))
    (ha : a ≠ .done (written r block w s).length) {st : Status} (hst : cutShort a = .ok st)
    (ht : m.Turn mode call s o u p) :
    o = .ok st ∧
      (∃ es, u = { (m.writing r block s es).wrote handle.channel (written r block w s) world with
        memory := s.memory.showing block st }) ∧
      p = posting? mode (r.settle st) block u.memory s.routines := by
  obtain ⟨ho, es, hu⟩ := ht.of_acquired h.asks h.fits h.acquired
  rw [h.journey_cut hg ha, hst] at ho
  subst ho
  obtain ⟨rfl, hp⟩ := hu
  refine ⟨rfl, ⟨es, ?_⟩, hp⟩
  have hm : (s.memory.showing block .pending).stamp (r.settle st) block =
      s.memory.showing block st := by
    rw [← h.asks.stamp_showing (by decide), Memory.stamp_stamp h.asks.fits,
      h.asks.stamp_showing (ne_complete_of_cutShort hst)]
  unfold settlement
  rw [h.journey_cut hg ha]
  simp [State.travelled, State.wrote, writing, State.acquired, State.stamped, hm]

end Manager

/-- A call that only breaks down is the last moment of a run. -/
theorem Course.of_crash {σ : Type} {m : Manager σ} {mode : AddressingMode} {call : Call}
    {s : State σ} {e : Fault} {P : State σ → Prop}
    (hcrash : ∀ {o u p}, m.Turn mode call s o u p → o = .error e ∧ P u)
    {rep : Repertoire σ} {depth : Nat} {held : List Alias} {p : Program σ} {a b : State σ}
    {ms : List (Moment σ)} {o : Except Fault Unit} (h : Course m rep depth held p a ms o b)
    {x : Moment σ} (hx : x ∈ ms) (hact : x.act = .call mode call) (hs : x.state = s) :
    ms.getLast? = some x ∧ o = .error e ∧ P b := by
  -- A call with a status is not the one that breaks down.
  have hne : ∀ {held mode' call' s' st u q}, m.Turn mode' call' s' (.ok st) u q →
      x ≠ ⟨held, .call mode' call', s'⟩ := by
    rintro held mode' call' s' st u q turn rfl
    cases hact
    cases hs
    cases (hcrash turn).1
  have hlast : ∀ {y : Moment σ} {ys}, ys.getLast? = some x → (y :: ys).getLast? = some x := by
    intro y ys hl
    rw [List.getLast?_cons, hl]
    rfl
  induction h with
  | done =>
    cases List.mem_singleton.mp hx
    cases hact
  | look _ ih => exact ih hx
  | deed _ ih =>
    rcases List.mem_cons.mp hx with rfl | hx
    · cases hact
    · obtain ⟨hl, ho⟩ := ih hx
      exact ⟨hlast hl, ho⟩
  | call turn _ ih =>
    obtain ⟨hl, ho⟩ := ih ((List.mem_cons.mp hx).resolve_left (hne turn))
    exact ⟨hlast hl, ho⟩
  | crashed turn =>
    cases List.mem_singleton.mp hx
    cases hact
    cases hs
    obtain ⟨ho, hP⟩ := hcrash turn
    cases ho
    exact ⟨rfl, rfl, hP⟩
  | tooDeep turn => exact absurd (List.mem_singleton.mp hx) (hne turn)
  | posted turn _ _ ihrun ih =>
    rcases List.mem_append.mp ((List.mem_cons.mp hx).resolve_left (hne turn)) with hx | hx
    · -- The routine came to its end.
      cases (ihrun hx).2.1
    · obtain ⟨hl, ho⟩ := ih hx
      refine ⟨hlast ?_, ho⟩
      rw [List.getLast?_append, hl]
      rfl
  | broken turn _ ihrun =>
    obtain ⟨hl, ho⟩ := ihrun ((List.mem_cons.mp hx).resolve_left (hne turn))
    exact ⟨hlast hl, ho⟩

/-! ## Later requests -/

/-- Something passes over a channel. -/
def Effect.PassesOver (channel : Nat) : Effect → Prop
  | .wrote c _ | .asked c _ => c = channel
  | .opened _ | .called .. => False

namespace Manager

variable {σ : Type} {m : Manager σ} {mode : AddressingMode} {call : Call} {r : Request}
  {block : Option Block} {w : Windows Range} {handle : Handle} {s u : State σ}
  {o : Except Fault Status} {p : Option Posting}

/-- A request whose device has a handle finds it, and is carried out over its channel. -/
theorem Turn.of_kept (h : m.Turn mode call s o u p) (ha : call.Asks s.memory mode r block)
    (hw : r.Fits s.memory mode w) (hf : s.registry.find? r.key = some handle) :
    u.registry = s.registry.hit ∧ ∃ es, u.effects.toList = s.effects.toList ++ es ∧
      m.Traffic mode call s es ∧ ∀ e ∈ es, e.PassesOver handle.channel := by
  have hacq : m.acquisition r.key s.registry s.world = ⟨.ok handle, s.registry.hit, s.world, []⟩ :=
    Attempt.result_of_find? (a := ⟨r.key, s.registry, s.world⟩) hf
  have hd : (m.acquisition r.key s.registry s.world).outcome = .ok handle := by rw [hacq]
  obtain ⟨ht, -⟩ := m.traffic_journey ha hw hd
  have hpass : ∀ e ∈ (m.journey r block w handle s).effects, e.PassesOver handle.channel := by
    have hhandle : ∀ {r' block' w' handle'}, m.Reaches mode call s r' block' w' handle' →
        handle' = handle := by
      intro r' block' w' handle' h'
      obtain ⟨rfl, -⟩ := ha.unique h'.asks
      exact Except.ok.inj (h'.acquired.symm.trans hd)
    generalize (m.journey r block w handle s).effects = es at ht ⊢
    cases ht with
    | none => simp
    | cut h' => simp [Effect.PassesOver, hhandle h']
    | full h' => simp [Effect.PassesOver, hhandle h']
  obtain ⟨-, es, hu⟩ := h.of_acquired ha hw hd
  cases o with
  | error e =>
    obtain ⟨-, rfl⟩ := hu
    refine ⟨by simp [State.travelled, State.acquired, hacq], _, ?_, ht, hpass⟩
    simp [State.travelled, State.acquired, hacq]
  | ok st =>
    obtain ⟨rfl, -⟩ := hu
    refine ⟨by simp [settlement, State.stamped, State.travelled, State.acquired, hacq], _, ?_, ht,
      hpass⟩
    simp [settlement, State.stamped, State.travelled, State.acquired, hacq]

/-! ## What the device sees, and what is left behind -/

/-- A call gets as far as the write of `octets`, which is made in state `u`. -/
structure Writing (m : Manager σ) (mode : AddressingMode) (call : Call) (s : State σ) (r : Request)
    (block : Option Block) (w : Windows Range) (handle : Handle) (octets : Bytes) (u : State σ) :
    Prop where
  letter : Letter r block w s.memory octets
  /-- Of the memory only the status of the block has changed. -/
  memory : u.memory = s.memory.showing block .pending
  routines : u.routines = s.routines
  world : u.world = (m.acquisition r.key s.registry s.world).world
  effects : u.effects = s.effects ++ (m.acquisition r.key s.registry s.world).effects
  kept : u.registry.find? r.key = some handle
  counted : s.registry.find? r.key = some handle ∧ u.registry = s.registry.hit ∨
    s.registry.find? r.key = none ∧ u.registry = s.registry.miss.countOpen.insert handle
  /-- Whatever is answered to the write, this is where it is made, for a request that is pending. -/
  run : ∀ g f, (((m.withWrite g).withRoutines f).perform mode call).exec s =
    (Request.status <$> ((m.withWrite g).withRoutines f).rest mode { r with status := .pending }
      block w handle ⟨octets, r.expectedReply⟩).exec u

/-- The write of a call breaks down and leaves state `t`. -/
structure Interrupted (m : Manager σ) (mode : AddressingMode) (call : Call) (s : State σ)
    (r : Request) (block : Option Block) (handle : Handle) (octets : Bytes) (t : State σ) :
    Prop where
  /-- This is the end of the call, whatever routines there are. -/
  run : ∀ f, ((m.withRoutines f).perform mode call).exec s = (.error .device, t)
  /-- It is also the end of every run in which the call is made, by a program or by a routine. -/
  course : ∀ {rep : Repertoire σ} {depth : Nat} {held : List Alias} {p : Program σ} {a b : State σ}
    {ms : List (Moment σ)} {o : Except Fault Unit}, Course m rep depth held p a ms o b →
    ∀ x ∈ ms, x.act = .call mode call → x.state = s →
      ms.getLast? = some x ∧ o = .error .device ∧ ∃ es, b = { t with events := es }
  /-- Had the write failed, the request would have been settled in this state, but with another
  status in its block. -/
  failed : ∀ g a st, g handle.channel octets (m.acquisition r.key s.registry s.world).world =
      (a, t.world) → a ≠ .done octets.length → cutShort a = .ok st →
    ∃ es, ∀ f, (((m.withWrite g).withRoutines f).perform mode call).exec s =
      conclude f st { t with memory := s.memory.showing block st, events := es }
        (posting? mode (r.settle st) block (s.memory.showing block st) t.routines)
  /-- The next request comes to the same as it would have come to then. If it is for the same
  device, it finds the handle and is carried out over the same channel. -/
  next : ∀ g mode' call' r' block' memory routines es, call'.Asks memory mode' r' block' →
    ∃ o v p es', (∀ f, (((m.withWrite g).withRoutines f).perform mode' call').exec
        { t with memory := memory, routines := routines } = finish f o v p) ∧
      (∀ f, (((m.withWrite g).withRoutines f).perform mode' call').exec
        { t with memory := memory, routines := routines, events := es } =
          finish f o { v with events := es' } p) ∧
      ∀ w, r'.key = r.key → r'.Fits memory mode' w → v.registry = t.registry.hit ∧
        ∃ passed, v.effects.toList = t.effects.toList ++ passed ∧
          (m.withWrite g).Traffic mode' call'
            { t with memory := memory, routines := routines } passed ∧
          ∀ e ∈ passed, e.PassesOver handle.channel

/-- A call that gets as far as its device makes its write in a state in which nothing but its status
has changed in the memory. If the host breaks down in this write, the state stays as it is, and the
next request finds the handle. -/
theorem interrupted_exchange (h : m.Reaches mode call s r block w handle) :
    ∃ octets u, m.Writing mode call s r block w handle octets u ∧
      ∀ g world, g handle.channel octets u.world = (.crashed, world) →
        (m.withWrite g).Interrupted mode call s r block handle octets
          (u.wrote handle.channel octets world) := by
  obtain ⟨es, hx⟩ := m.execute_rest h
  have hrun : ∀ g f, (((m.withWrite g).withRoutines f).perform mode call).exec s =
      (Request.status <$> ((m.withWrite g).withRoutines f).rest mode { r with status := .pending }
        block w handle ⟨written r block w s, r.expectedReply⟩).exec (m.writing r block s es) :=
    fun g f => ((m.withWrite g).perform_exec h.asks f).trans (exec_status (hx g f))
  refine ⟨written r block w s, m.writing r block s es, ?_, fun g world hg => ?_⟩
  · exact ⟨Request.letter_outbound h.asks.fits h.fits, rfl, rfl, rfl, rfl,
      find?_acquisition h.acquired, h.counted, hrun⟩
  constructor
  case run =>
    intro f
    have hr : (((m.withWrite g).withRoutines f).rest mode { r with status := .pending } block w
          handle ⟨written r block w s, r.expectedReply⟩).exec (m.writing r block s es) =
        (.error .device,
          (m.writing r block s es).wrote handle.channel (written r block w s) world) :=
      rest_crashed hg
    rw [hrun, Run.exec_map, hr]
  case course =>
    intro rep depth held p a b ms o hc x hx hact hs
    exact hc.of_crash ((h.withWrite g).turn_crashed hg) hx hact hs
  case failed =>
    intro g' a st hw ha hst
    obtain ⟨o, u, p, ht, hp⟩ := (m.withWrite g').perform_turn mode call s
    obtain ⟨rfl, ⟨es', rfl⟩, rfl⟩ := (h.withWrite g').turn_failed hw ha hst ht
    exact ⟨es', hp⟩
  case next =>
    intro g' mode' call' r' block' memory routines es' ha
    obtain ⟨o, v, p, es'', ht, hx, hx'⟩ := (m.withWrite g').perform_reported ha es'
      (s := { (m.writing r block s es).wrote handle.channel (written r block w s) world with
        memory := memory, routines := routines })
    refine ⟨o, v, p, es'', hx, hx', fun w' hkey hw' => ht.of_kept ha hw' ?_⟩
    rw [hkey]
    exact find?_acquisition h.acquired

end Manager

/-- The block at `0000:0010` asks for a routine that is registered. If the host breaks down in the
write, none is called, and octet 17 says that the request is pending. -/
theorem posted_block_interrupted :
    let m := Manager.constant []
    let s := { State.initial ((Memory.zeroed 256).put 16 postedDraft.build) with
      routines := .ofHistory [(128, 3)] }
    let call := Call.send ⟨0, 16⟩
    ∃ r w handle, m.Reaches .realMode call s r (some ⟨⟨0, 16⟩, ⟨16, 84⟩⟩) w handle ∧
      handle = ⟨r.key, "/dev/sg2", 0⟩ ∧
      ∃ t, (∀ f, (((m.withWrite fun _ _ w => (.crashed, w)).withRoutines f).perform .realMode
          call).exec s = (.error .device, t)) ∧
        t.memory = s.memory.put 17 [0] ∧ t.registry.find? r.key = some handle := by
  intro m s call
  have hb : BlockAt s.memory .realMode ⟨0, 16⟩ postedDraft.header ⟨16, 84⟩ := blockAt_postedDraft
  have hu : ¬ (postedDraft.header.requestIn s.memory ⟨0, 16⟩ ⟨16, 84⟩).Unfit s.memory
      .realMode := by
    decide +kernel
  obtain ⟨w, hw⟩ := Request.exists_fits hu
  have hr : m.Reaches .realMode call s _ _ w _ := ⟨.send hb, hw, rfl, fun _ => by decide +kernel⟩
  obtain ⟨octets, u, hwriting, hcrash⟩ := m.interrupted_exchange hr
  exact ⟨_, w, _, hr, rfl, _, (hcrash (fun _ _ w => (.crashed, w)) _ rfl).run, hwriting.memory,
    hwriting.kept⟩

end AspiManager
