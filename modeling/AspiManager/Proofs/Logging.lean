import AspiManager.Proofs.Probing

/-!
# What is reported

What a run reports is an extension of what was reported before (`Run.Reports`). A run that has
nothing to do with the caller's memory reports the same, and does the same, wherever that memory is
and whatever it holds (`Run.Aloof`): this is so for the acquisition of a device and for an exchange
with it.

A probe reports its own events, the dump of its request, and what follows from the answering of the
device. Only in the dump does it matter where the pointers of the caller come from
(`Probe.inquire_reports`).
-/

namespace AspiManager

/-- The state with another registry and another host, after more was reported and done. -/
def State.extended {σ : Type} (s : State σ) (g : Registry) (w : σ) (es : List Log.Event)
    (fs : List Effect) : State σ :=
  { s with registry := g, world := w, events := s.events ++ es, effects := s.effects ++ fs }

namespace Run

variable {σ α β : Type} {x : Run σ α} {f : α → Run σ β} {s t : State σ} {a : α} {e : Fault}
  {es es' : List Log.Event}

/-! ## Reports -/

/-- The run reports `es` from a state. -/
def Reports (x : Run σ α) (s : State σ) (es : List Log.Event) : Prop :=
  (x.exec s).2.events = s.events ++ es

theorem reports_of_exec {o : Except Fault α} (hx : x.exec s = (o, t))
    (h : t.events = s.events ++ es) : x.Reports s es := by
  unfold Reports
  rw [hx, h]

theorem Reports.bind_ok (hx : x.exec s = (.ok a, t)) (h : x.Reports s es)
    (hf : (f a).Reports t es') : (x >>= f).Reports s (es ++ es') := by
  unfold Reports at *
  rw [hx] at h
  rw [exec_bind_ok hx, hf, h, append_lists]

theorem Reports.bind_error (hx : x.exec s = (.error e, t)) (h : x.Reports s es) :
    (x >>= f).Reports s es := by
  unfold Reports at *
  rw [hx] at h
  rw [exec_bind_error hx, h]

theorem Reports.map (h : x.Reports s es) (g : α → β) : (do return g (← x)).Reports s es := by
  unfold Reports at *
  rw [exec_bind, ← h]
  rcases x.exec s with ⟨_ | _, t⟩ <;> rfl

/-- A step that reports nothing may be left out of the account. -/
theorem Reports.bind_quiet (hx : x.exec s = (.ok a, t)) (h : t.events = s.events)
    (hf : (f a).Reports t es) : (x >>= f).Reports s es := by
  unfold Reports at *
  rw [exec_bind_ok hx, hf, h]

/-! ## Runs beside the memory -/

/-- The run has nothing to do with the caller's memory: what it does is decided by the registry and
by the host. -/
def Aloof (x : Run σ α) : Prop := ∀ g w, ∃ o g' w' es fs, ∀ s : State σ,
  s.registry = g → s.world = w → x.exec s = (o, s.extended g' w' es fs)

theorem Aloof.bind (hx : x.Aloof) (hf : ∀ a, (f a).Aloof) : (x >>= f).Aloof := by
  intro g w
  obtain ⟨o, g', w', es, fs, h⟩ := hx g w
  cases o with
  | error e =>
    refine ⟨.error e, g', w', es, fs, fun s hg hw => ?_⟩
    rw [exec_bind, h s hg hw]
  | ok a =>
    obtain ⟨o', g'', w'', es', fs', h'⟩ := hf a g' w'
    refine ⟨o', g'', w'', es ++ es', fs ++ fs', fun s hg hw => ?_⟩
    rw [exec_bind, h s hg hw]
    dsimp only
    rw [h' _ rfl rfl]
    simp [State.extended, append_lists]

/-- It reports the same wherever it starts from that registry and that host. -/
theorem Aloof.reports (h : x.Aloof) (g : Registry) (w : σ) :
    ∃ es, ∀ s : State σ, s.registry = g → s.world = w → x.Reports s es := by
  obtain ⟨o, g', w', es, fs, hx⟩ := h g w
  exact ⟨es, fun s hs hw => reports_of_exec (hx s hs hw) rfl⟩

theorem aloof_pure (a : α) : (pure a : Run σ α).Aloof := by
  intro g w
  refine ⟨.ok a, g, w, [], [], ?_⟩
  rintro s rfl rfl
  rfl

theorem aloof_throw (e : Fault) : (throw e : Run σ α).Aloof := by
  intro g w
  refine ⟨.error e, g, w, [], [], ?_⟩
  rintro s rfl rfl
  rfl

theorem aloof_reportAll (es : List Log.Event) : (reportAll es : Run σ Unit).Aloof := by
  intro g w
  refine ⟨.ok (), g, w, es, [], ?_⟩
  rintro s rfl rfl
  rfl

theorem aloof_report (e : Log.Event) : (report e : Run σ Unit).Aloof := by
  intro g w
  refine ⟨.ok (), g, w, [e], [], ?_⟩
  rintro s rfl rfl
  rfl

theorem aloof_record (e : Effect) : (record e : Run σ Unit).Aloof := by
  intro g w
  refine ⟨.ok (), g, w, [], [e], ?_⟩
  rintro s rfl rfl
  rfl

theorem aloof_host (f : σ → α × σ) : (host f).Aloof := by
  intro g w
  refine ⟨.ok (f w).1, g, (f w).2, [], [], ?_⟩
  rintro s rfl rfl
  rfl

theorem aloof_setRegistry (g : Registry) : (setRegistry g : Run σ Unit).Aloof := by
  intro _ w
  refine ⟨.ok (), g, w, [], [], ?_⟩
  rintro s rfl rfl
  rfl

/-- A run that looks at no more of the state than the registry. -/
theorem aloof_get {f : State σ → Run σ β}
    (hg : ∀ s t : State σ, s.registry = t.registry → f s = f t) (hf : ∀ s, (f s).Aloof) :
    (get >>= f).Aloof := by
  intro g w
  let any : State σ := { memory := .zeroed 0, registry := g, world := w }
  obtain ⟨o, g', w', es, fs, h⟩ := hf any g w
  refine ⟨o, g', w', es, fs, fun s hs hw => ?_⟩
  rw [exec_bind_ok (exec_get s), hg s any hs, h s hs hw]

end Run

namespace Manager

variable {σ : Type}

open Run (Reports Aloof)

theorem openDevice_aloof (m : Manager σ) (key : DeviceKey) (path : String) :
    (m.openDevice key path).Aloof := by
  unfold openDevice
  refine (Run.aloof_report _).bind fun _ => Run.aloof_get (fun s t h => by simp only [h]) fun s => ?_
  refine (Run.aloof_setRegistry _).bind fun _ => (Run.aloof_record _).bind fun _ => ?_
  refine (Run.aloof_host _).bind fun opened => ?_
  cases opened with
  | error e => exact (Run.aloof_report _).bind fun _ => Run.aloof_pure _
  | ok channel =>
    refine Run.aloof_get (fun s t h => by simp only [h]) fun s => ?_
    exact (Run.aloof_setRegistry _).bind fun _ => Run.aloof_pure _

theorem acquire_aloof (m : Manager σ) (key : DeviceKey) : (m.acquire key).Aloof := by
  unfold acquire
  refine Run.aloof_get (fun s t h => by simp only [h]) fun s => ?_
  dsimp only
  cases s.registry.find? key with
  | some handle => exact (Run.aloof_setRegistry _).bind fun _ => Run.aloof_pure _
  | none =>
    refine (Run.aloof_setRegistry _).bind fun _ => ?_
    cases m.directory key with
    | some path => exact m.openDevice_aloof key path
    | none => exact (Run.aloof_report _).bind fun _ => Run.aloof_pure _

/-- A run of `acquire` comes to the acquisition, and its reports depend on no more than that. -/
theorem acquire_reports (m : Manager σ) (key : DeviceKey) (g : Registry) (world : σ) :
    ∃ es : List Log.Event, ∀ s : State σ, s.registry = g → s.world = world →
      ∃ t, (m.acquire key).exec s = (.ok (m.acquisition key g world).outcome, t) ∧
        t.memory = s.memory ∧ t.registry = (m.acquisition key g world).registry ∧
        t.world = (m.acquisition key g world).world ∧ t.events = s.events ++ es := by
  obtain ⟨es, hes⟩ := (m.acquire_aloof key).reports g world
  refine ⟨es, ?_⟩
  rintro s rfl rfl
  obtain ⟨log, hx⟩ := m.acquire_exec key s
  have hlog := hes s rfl rfl
  unfold Reports at hlog
  rw [hx] at hlog
  exact ⟨_, hx, rfl, rfl, rfl, hlog⟩

theorem offer_aloof (m : Manager σ) (channel : Nat) (message : Sg.Message) :
    (m.offer channel message).Aloof := by
  unfold offer
  refine (Run.aloof_record _).bind fun _ => (Run.aloof_host _).bind fun answer => ?_
  cases answer with
  | crashed => exact Run.aloof_throw _
  | failed e => exact (Run.aloof_reportAll _).bind fun _ => Run.aloof_pure _
  | done written =>
    dsimp only
    split
    · exact Run.aloof_pure _
    · exact (Run.aloof_report _).bind fun _ => Run.aloof_pure _

theorem collect_aloof (m : Manager σ) (channel expected : Nat) :
    (m.collect channel expected).Aloof := by
  unfold collect
  refine (Run.aloof_record _).bind fun _ => (Run.aloof_host _).bind fun answer => ?_
  rcases answer with ⟨read, octets⟩ | e | _
  · dsimp only
    split
    · split <;> exact Run.aloof_pure _
    · exact (Run.aloof_report _).bind fun _ => Run.aloof_pure _
  · exact Run.aloof_pure _
  · exact Run.aloof_throw _

theorem exchange_aloof (m : Manager σ) (channel : Nat) (message : Sg.Message) (expected : Nat) :
    (m.exchange channel message expected).Aloof := by
  unfold exchange
  refine (m.offer_aloof channel message).bind fun taken => ?_
  cases taken with
  | error e => exact Run.aloof_pure _
  | ok _ => exact m.collect_aloof channel expected

/-! ## Round trips -/

/-- What is reported of an answer when it is received. -/
def answerWarnings : Except TransferError Bytes → List Log.Event
  | .error _ => []
  | .ok raw => if raw.int32 12 = 0 then [] else [resultWarning (raw.int32 12)]

/-- What a round trip reports is decided by what is said to the device and by what it answers. -/
theorem roundTrip_reports (m : Manager σ) (channel count : Nat) (octets : Bytes) (g : Registry)
    (world : σ) : ∃ es, ∀ (handle : Handle) (r : Request) (w : Windows Range) (s : State σ),
      handle.channel = channel → r.checkCommand = .ok () → ¬ r.TooLong → w.Sound s.memory →
      r.outbound s.memory w = octets → r.expectedReply = count → s.registry = g → s.world = world →
      (m.roundTrip handle r w).Reports s es := by
  obtain ⟨es, hes⟩ := (m.exchange_aloof channel ⟨octets, count⟩ count).reports g world
  refine ⟨es ++ match (m.host.converse channel octets count world).outcome with
    | .error _ => []
    | .ok answer => answerWarnings answer, ?_⟩
  rintro handle r w s rfl hc hl hw rfl rfl rfl rfl
  unfold roundTrip
  refine Reports.bind_quiet (payload_exec hw r) rfl ?_
  rw [Request.message_payload hc, if_neg hl]
  dsimp only
  obtain ⟨es', hx⟩ := m.exchange_exec handle.channel ⟨r.outbound s.memory w, r.expectedReply⟩
    r.length_le_expectedReply s
  have hreports := hes s rfl rfl
  rcases hout : (m.host.converse handle.channel (r.outbound s.memory w) r.expectedReply
    s.world).outcome with f | e | raw <;> rw [hout] at hx
  · rw [List.append_nil]
    exact Reports.bind_error hx hreports
  · exact Reports.bind_ok hx hreports rfl
  · let c := m.host.converse handle.channel (r.outbound s.memory w) r.expectedReply s.world
    let talked : State σ :=
      { s with world := c.world, events := es', effects := s.effects ++ c.effects }
    refine Reports.bind_ok hx hreports ?_
    dsimp only [Except.map, answerWarnings]
    by_cases hr : raw.int32 12 = 0
    · rw [if_pos hr]
      exact Run.reports_of_exec (deliver_exec_of_eq talked hw r (Sg.Reply.ofOctets raw) hr) rfl
    · rw [if_neg hr]
      exact Run.reports_of_exec (deliver_exec_of_ne talked hw r (Sg.Reply.ofOctets raw) hr) rfl

/-- Nothing is reported of a post routine that is not asked for. -/
theorem notify_exec_of_none (m : Manager σ) (mode : AddressingMode) {r : Request}
    (hp : postEntry? r = none) (block : Option Block) (s : State σ) :
    (m.notify mode r block).exec s = (.ok (), s) := by
  unfold notify post
  rw [hp]
  rfl

end Manager

/-! ## The probe -/

namespace Probe

variable {σ : Type} {o : Options} {l : Layout} {mode : AddressingMode} {n : Memory} {s : State σ}

open Manager (resultWarning receive closed closing verdictEvents outcomeStatus)

/-- What is reported at the end of an INQUIRY: why it failed, or who answered. -/
def closingEvents : Except Status Bytes → List Log.Event
  | .error st => verdictEvents st
  | .ok answer =>
    match Scsi.Inquiry.vendor? answer with
    | some v => [Log.Dump.event "Vendor" [("vendor", .text v)]]
    | none => []

theorem dump_result (o : Options) (l : Layout) (st : Status) (answer sense : Bytes) :
    Log.Dump.result ((request o l).settle st) answer sense = closingEvents (.ok answer) := by
  have hcdb : ((request o l).settle st).cdb = o.command := by cases st <;> rfl
  unfold Log.Dump.result
  rw [hcdb]
  unfold Options.command
  cases o.page <;> rfl

/-- The front of the data area that a reply fills is all of it. -/
theorem readFront_data {before after : Memory} {raw : Bytes}
    (hraw : raw.length = 36 + o.allocation.toNat) (hresult : raw.int32 12 = 0)
    (hsize : before.size = memorySize)
    (hread : after.read dataBase o.allocation.toNat = raw.drop 36) :
    after.readFront (windows o).data (Delivery.deliver (.ofOctets raw) (request o l)
      (before.octetsIn (windows o))).1.dataCopied = raw.drop 36 := by
  have halloc := o.allocation.toNat_lt
  have hend : (Range.mk dataBase o.allocation.toNat).stop ≤ before.size := by
    rw [hsize]
    unfold Range.stop dataBase memorySize
    dsimp only
    omega
  have hdata : (before.read dataBase o.allocation.toNat).length = o.allocation.toNat :=
    Memory.length_read_of_le hend
  have hresult' : ¬ (Sg.Reply.ofOctets raw).result ≠ 0 := not_not_intro hresult
  have hpayload : Delivery.payloadFor (request o l) (Sg.Reply.ofOctets raw) = raw.drop 36 := by
    unfold Delivery.payloadFor
    rw [request_direction]
    rfl
  unfold Delivery.deliver
  rw [if_neg hresult', hpayload]
  unfold Memory.octetsIn windows
  dsimp only
  by_cases hpos : 0 < o.allocation.toNat
  · rw [if_pos hpos]
    have hlength : (raw.drop 36).length = o.allocation.toNat := by
      rw [List.length_drop]
      omega
    dsimp only [Memory.readFront, Option.map_some, Delivery.copied]
    rw [hdata, hlength, Nat.min_self, Nat.min_self, hread]
  · rw [if_neg hpos]
    exact (List.drop_eq_nil_of_le (by omega)).symm

/-- What is reported when the answer to an INQUIRY is settled. -/
theorem events_closed {before : Memory} {t : State σ} {answer : Except TransferError Bytes}
    (hsize : before.size = memorySize)
    (hread : ∀ raw, answer = .ok raw → raw.int32 12 = 0 →
      raw.length = 36 + o.allocation.toNat ∧
        (t.memory.stamp ((request o l).settle .complete) (some (blockOf l))).read dataBase
          o.allocation.toNat = raw.drop 36) :
    (closed (request o l) (some (blockOf l)) (windows o)
      (receive (request o l) (before.octetsIn (windows o)) answer) t).events =
        t.events ++ closingEvents (judge answer) := by
  unfold closed
  dsimp only
  rw [Run.append_lists, Manager.outcomeStatus_receive]
  congr 1
  rcases answer with e | raw
  · dsimp only [receive, judge, closing, closingEvents]
    rw [List.append_nil]
  · dsimp only [receive, judge]
    by_cases hr : raw.int32 12 = 0
    · obtain ⟨hraw, hread⟩ := hread raw rfl hr
      rw [if_pos hr, if_pos hr, if_pos hr]
      dsimp only [closing, verdictEvents]
      rw [readFront_data hraw hr hsize hread, dump_result]
      rfl
    · rw [if_neg hr, if_neg hr, if_neg hr]
      rfl

/-- The state in which the block of a probe shows that its request is pending. -/
def asked (o : Options) (l : Layout) (s : State σ) : State σ :=
  s.stamped { request o l with status := .pending } (some (blockOf l))

/-- The round trip of a probe. If a reply is delivered, it is in the data area when the request is
settled. -/
theorem roundTrip_request (m : Manager σ) (h : LaidOut mode l n)
    (hm : s.memory = n.put blockBase (draft o l.data).build) (handle : Handle) :
    let c := m.host.converse handle.channel o.message (36 + o.allocation.toNat) s.world
    ∃ t, (m.roundTrip handle { request o l with status := .pending } (windows o)).exec
        (asked o l s) =
          (c.outcome.map (receive (request o l) ((asked o l s).memory.octetsIn (windows o))), t) ∧
      t.memory.size = s.memory.size ∧
      ∀ raw, c.outcome = .ok (.ok raw) → raw.int32 12 = 0 →
        raw.length = 36 + o.allocation.toNat ∧
          (t.memory.stamp ((request o l).settle .complete) (some (blockOf l))).read dataBase
            o.allocation.toNat = raw.drop 36 := by
  intro c
  let p : Request := { request o l with status := .pending }
  have hfits : (request o l).Fits s.memory mode (windows o) := hm ▸ h.fits o
  have hc : p.checkCommand = .ok () := Request.checkCommand_ok_iff.mpr hfits.command
  have hsound : (windows o).Sound (asked o l s).memory :=
    hfits.sound.of_size (Memory.size_stamp ..)
  have hout : p.outbound (asked o l s).memory (windows o) = o.message := request_outbound o l _ _
  have hreply : p.expectedReply = 36 + o.allocation.toNat := request_expectedReply o l
  obtain ⟨es, hx⟩ := m.roundTrip_exec_of_short handle hc hsound (not_tooLong_request o l)
  rw [hout, hreply] at hx
  refine ⟨_, hx, (Manager.size_trip ..).trans (Memory.size_stamp ..), fun raw hraw hr => ?_⟩
  obtain ⟨-, octets, -, -, -, hfit⟩ := Host.answers_of_converse hraw
  have hlength : raw.length = 36 + o.allocation.toNat := by rw [hfit, Bytes.length_fit]
  have hanswer : (m.host.converse handle.channel (p.outbound (asked o l s).memory (windows o))
      p.expectedReply s.world).outcome = .ok (.ok raw) := by
    rw [hout, hreply]
    exact hraw
  have hread := read_reply h hlength
  rw [← hm] at hread
  refine ⟨hlength, Eq.trans ?_ hread⟩
  exact congrArg (fun memory : Memory => (memory.stamp ((request o l).settle .complete)
    (some (blockOf l))).read dataBase o.allocation.toNat)
      (m.memory_trip_of_reply (r := p) (not_tooLong_request o l) hanswer hr)

/-- What the INQUIRY reports once its device is open is decided by the device. -/
theorem carryOut_reports (m : Manager σ) (o : Options) (channel : Nat) (g : Registry) (world : σ) :
    ∃ es, ∀ (mode : AddressingMode) (l : Layout) (n : Memory) (s : State σ) (handle : Handle),
      LaidOut mode l n → s.memory = n.put blockBase (draft o l.data).build →
      handle.channel = channel → s.registry = g → s.world = world →
      (m.carryOut mode (request o l) (some (blockOf l)) (windows o) handle).Reports s es := by
  obtain ⟨es, hes⟩ := m.roundTrip_reports channel (36 + o.allocation.toNat) o.message g world
  refine ⟨es ++ match (m.host.converse channel o.message (36 + o.allocation.toNat) world).outcome with
    | .error _ => []
    | .ok answer => closingEvents (judge answer), ?_⟩
  rintro mode l n s handle h hm rfl rfl rfl
  have hb : ∀ b, some (blockOf l) = some b → b.Fits s.memory := hm ▸ h.blockOf_fits o
  have hfits : (request o l).Fits s.memory mode (windows o) := hm ▸ h.fits o
  obtain ⟨t, hx, hsize, hread⟩ := roundTrip_request m h hm handle
  have hreports := hes handle { request o l with status := .pending } (windows o) (asked o l s) rfl
    (Request.checkCommand_ok_iff.mpr hfits.command) (not_tooLong_request o l)
    (hfits.sound.of_size (Memory.size_stamp ..)) (request_outbound o l _ _)
    (request_expectedReply o l) rfl rfl
  unfold Run.Reports at hreports
  rw [hx] at hreports
  cases hanswer : (m.host.converse handle.channel o.message (36 + o.allocation.toNat)
    s.world).outcome with
  | error f =>
    rw [hanswer] at hx
    rw [List.append_nil]
    exact Run.reports_of_exec (m.carryOut_exec_of_fault mode handle hb hx m.routine) hreports
  | ok answer =>
    rw [hanswer] at hx hread
    have hlaid : (asked o l s).memory.size = memorySize :=
      (Memory.size_stamp ..).trans (by rw [hm, Memory.size_put, h.size])
    have hcarried := m.carryOut_exec_of_outcome mode handle hb hfits.sound hx hsize m.routine
    have hquiet := (Manager.postEntry?_settle (request o l)
      (outcomeStatus (receive (request o l) ((asked o l s).memory.octetsIn (windows o)) answer))).trans
        (postEntry?_request o l)
    rw [Run.exec_bind_ok (Manager.notify_exec_of_none _ mode hquiet _ _)] at hcarried
    refine Run.reports_of_exec hcarried ((events_closed hlaid ?_).trans ?_)
    · rintro raw rfl hr
      exact hread raw rfl hr
    · rw [hreports, Run.append_lists]
      rfl

/-- After the dump of its request, what the INQUIRY reports is decided by the device. -/
theorem execute_reports (m : Manager σ) (o : Options) (world : σ) :
    ∃ es, ∀ (mode : AddressingMode) (l : Layout) (n : Memory) (s : State σ), LaidOut mode l n →
      s.memory = n.put blockBase (draft o l.data).build → s.registry = {} → s.world = world →
      (m.execute mode (request o l) (some (blockOf l))).Reports s
        (Log.Dump.request (request o l) (windows o).data ++ es) := by
  obtain ⟨es, hes⟩ := m.acquire_reports o.device {} world
  cases ha : (m.acquisition o.device {} world).outcome with
  | error e =>
    rw [ha] at hes
    refine ⟨es ++ [Manager.unopened o.device e] ++ verdictEvents e.status, ?_⟩
    rintro mode l n s h hm hg rfl
    have hfits : (request o l).Fits s.memory mode (windows o) := hm ▸ h.fits o
    obtain ⟨t, hx, hmemory, -, -, hlog⟩ :=
      hes (Manager.dumped (request o l) (windows o) s) hg rfl
    have hb : ∀ b, some (blockOf l) = some b → b.Fits t.memory :=
      (hmemory.trans hm) ▸ h.blockOf_fits o
    have hset := Manager.settle_exec
      (s := { t with events := t.events.push (Manager.unopened o.device e) }) _ hb (request o l)
      e.status
    refine Run.reports_of_exec
      ((m.execute_exec_of_error hfits hx m.routine).trans hset) (Array.ext' ?_)
    simp [State.stamped, hlog, Manager.dumped]
  | ok handle =>
    rw [ha] at hes
    obtain ⟨es', hes'⟩ := carryOut_reports m o handle.channel
      (m.acquisition o.device {} world).registry (m.acquisition o.device {} world).world
    refine ⟨es ++ es', ?_⟩
    rintro mode l n s h hm hg rfl
    have hfits : (request o l).Fits s.memory mode (windows o) := hm ▸ h.fits o
    obtain ⟨t, hx, hmemory, hregistry, hworld, hlog⟩ :=
      hes (Manager.dumped (request o l) (windows o) s) hg rfl
    have hcarried := hes' mode l n t handle h (hmemory.trans hm) rfl hregistry hworld
    unfold Run.Reports at hcarried ⊢
    have hexec : (m.execute mode (request o l) (some (blockOf l))).exec s = _ :=
      m.execute_exec_of_handle hfits hx m.routine
    rw [hexec]
    refine hcarried.trans (Array.ext' ?_)
    simp [hlog, Manager.dumped]

/-- So it is when the block of the probe is sent. -/
theorem send_reports (m : Manager σ) (o : Options) (world : σ) :
    ∃ es, ∀ (mode : AddressingMode) (l : Layout) (n : Memory) (s : State σ), LaidOut mode l n →
      s.memory = n.put blockBase (draft o l.data).build → s.registry = {} → s.world = world →
      (m.send mode l.block).Reports s
        (Log.Dump.request (request o l) (windows o).data ++ es) := by
  obtain ⟨es, hes⟩ := execute_reports m o world
  refine ⟨es, fun mode l n s h hm hg hw => ?_⟩
  have hreports := (hes mode l n s h hm hg hw).map Request.status
  have hx := m.send_exec (hm ▸ h.blockAt o) m.routine
  have hrequest : (draft o l.data).header.requestIn s.memory l.block blockRange = request o l :=
    hm ▸ h.requestIn o
  rw [hrequest] at hx
  unfold Run.Reports at hreports ⊢
  exact (congrArg (fun u => u.2.events) hx).trans hreports

theorem askDevice_reports (m : Manager σ) (o : Options) (world : σ) :
    ∃ es, ∀ (mode : AddressingMode) (l : Layout) (s : State σ), LaidOut mode l s.memory →
      s.registry = {} → s.world = world →
      (askDevice m { o with mode := mode } l).Reports s
        (Log.Dump.request (request o l) (windows o).data ++ es) := by
  obtain ⟨es, hes⟩ := send_reports m o world
  refine ⟨es ++ match (answering m o world).outcome with
    | .error _ => []
    | .ok out => [doneEvent o (statusOf out)], ?_⟩
  rintro mode l s h hg rfl
  let placed : State σ := { s with memory := s.memory.put blockBase (draft o l.data).build }
  have hsent := hes mode l s.memory placed h rfl hg rfl
  obtain ⟨u, hx, -⟩ := send_inquiry (o := { o with mode := mode }) (s := placed) m h rfl hg
  have hanswering : answering m { o with mode := mode } placed.world = answering m o s.world := rfl
  rw [hanswering] at hx
  unfold askDevice
  refine Run.Reports.bind_quiet (place_exec ..) rfl ?_
  rw [← List.append_assoc]
  cases hout : (answering m o s.world).outcome with
  | error f =>
    rw [hout] at hx
    rw [List.append_nil]
    exact Run.Reports.bind_error hx hsent
  | ok out =>
    rw [hout] at hx
    refine Run.Reports.bind_ok hx hsent ?_
    have hdone : (Run.report (doneEvent o (statusOf out))).Reports u
      [doneEvent o (statusOf out)] := rfl
    have hshown : ∀ v : State σ, (do
        let memory ← Run.memory
        if statusOf out = .complete then
          return answerReport o (memory.read dataBase o.allocation.toNat)
        return failedReport o (statusOf out)
          (memory.read (blockBase + Srb.Exec.fixedLength + o.command.length) senseLength.toNat)
        : Run σ Report).Reports v [] := by
      intro v
      refine Run.Reports.bind_quiet (Run.exec_memory v) rfl ?_
      split <;> rfl
    exact hdone.bind_ok (Run.exec_report ..) (hshown _)

/-- A probe reports that it is ready, dumps its request, and reports what is decided by the device:
in this the caller's mode only matters for the pointers that are dumped. -/
theorem inquire_reports (m : Manager σ) (o : Options) (world : σ) :
    ∃ es, ∀ (mode : AddressingMode) (s : State σ), s.memory = .zeroed memorySize →
      s.registry = {} → s.world = world →
      ∃ l, (inquire m { o with mode := mode }).Reports s
        (readyEvent :: (Log.Dump.request (request o l) (windows o).data ++ es)) := by
  obtain ⟨es, hes⟩ := askDevice_reports m o world
  refine ⟨es, ?_⟩
  rintro mode s hm hg rfl
  obtain ⟨l, memory, hl, h⟩ := layOut_ok mode
  refine ⟨l, ?_⟩
  let ready : State σ := { s with memory := memory, events := s.events.push readyEvent }
  obtain ⟨memory', hadapter, h'⟩ := askAdapter_exec (s := ready) m h
  have hready : (Run.report readyEvent).Reports { s with memory := memory } [readyEvent] := rfl
  have hdevice := hes mode l { ready with memory := memory' } h' hg rfl
  unfold inquire
  refine Run.Reports.bind_quiet (Run.exec_memory s) rfl ?_
  rw [hm, hl]
  dsimp only
  refine Run.Reports.bind_quiet (Run.exec_setMemory ..) rfl ?_
  refine hready.bind_ok (Run.exec_report ..) ?_
  refine Run.Reports.bind_quiet hadapter rfl ?_
  exact hdevice.map _

end Probe

end AspiManager
