import AspiManager.Proofs.RoundTrip

/-!
# Runs of a request

A run of `execute` takes one of three ways, and each is stated for all post routines at once, since
only the end of the third depends on them (`Manager.withRoutines`).

* `execute_rejected`: no windows. The request is settled as invalid.
* `execute_unavailable`: no handle. The request is settled as failed.
* `execute_carried`: the round trip is made, the request is settled with its outcome, and then the
  post routine is notified, if one is due (`notify_cases`).
-/

namespace AspiManager

/-- The front of a window, as far as the window and `n` octets go. -/
def Memory.readFront (m : Memory) (window : Option Range) (n : Nat) : Bytes :=
  match window with
  | some d => m.read d.base (min d.len n)
  | none => []

namespace Manager

variable {σ : Type}

/-- The manager with other post routines. -/
def withRoutines (m : Manager σ) (f : Nat → PostCall → Run σ Unit) : Manager σ :=
  { m with routine := f }

theorem acquire_withRoutines (m : Manager σ) (f : Nat → PostCall → Run σ Unit) (key : DeviceKey) :
    (m.withRoutines f).acquire key = m.acquire key := rfl

theorem roundTrip_withRoutines (m : Manager σ) (f : Nat → PostCall → Run σ Unit) (handle : Handle)
    (r : Request) (w : Windows Range) :
    (m.withRoutines f).roundTrip handle r w = m.roundTrip handle r w := rfl

variable {m : Manager σ} {mode : AddressingMode} {r : Request} {block : Option Block}
  {s : State σ} {w : Windows Range}

/-! ## Requests that are not carried out -/

/-- A request without windows is settled as invalid; nothing else happens. -/
theorem execute_rejected (m : Manager σ) (hb : ∀ b, block = some b → b.Fits s.memory)
    (hu : r.Unfit s.memory mode) :
    ∃ es, ∀ f, ((m.withRoutines f).execute mode r block).exec s =
      (.ok (r.settle .invalid), { s with events := es }.stamped (r.settle .invalid) block) := by
  obtain ⟨e, he⟩ := Request.windows_error_iff.mpr hu
  have hst := Request.status_of_windows_error he
  let events := (s.events ++ Log.Dump.request r none).push
    (event .warn "Rejected request" [("error", .text e.message)])
  have h := settle_exec (s := { s with events := events }) block hb r .invalid
  refine ⟨events ++ verdictEvents .invalid, fun f => ?_⟩
  unfold execute
  rw [Run.exec_bind_ok (Run.exec_memory s), he]
  simp only [Run.exec_bind, Run.exec_reportAll, Run.exec_report, hst]
  exact h

theorem status_of_acquisition_error {key : DeviceKey} {g : Registry} {world : σ}
    {e : RequestError} (h : (m.acquisition key g world).outcome = .error e) :
    e.status = .failed := by
  unfold acquisition at h
  split at h
  · cases h
  · split at h
    · cases h; rfl
    · split at h <;> cases h
      rfl

/-- The state in which the dump of a request is reported. -/
def dumped (r : Request) (w : Windows Range) (s : State σ) : State σ :=
  { s with events := s.events ++ Log.Dump.request r w.data }

/-- What is reported of a request whose device is not there. -/
def unopened (key : DeviceKey) (e : RequestError) : Log.Event :=
  event .error "Failed: could not open device. Device permissions !?"
    [("key", .text key.text), ("error", .text e.message)]

theorem execute_exec_of_error (m : Manager σ) (hw : r.Fits s.memory mode w) {e : RequestError}
    {t : State σ} (hx : (m.acquire r.key).exec (dumped r w s) = (.ok (.error e), t))
    (f : Nat → PostCall → Run σ Unit) :
    ((m.withRoutines f).execute mode r block).exec s =
      (settle r block e.status).exec { t with events := t.events.push (unopened r.key e) } := by
  unfold execute
  rw [Run.exec_bind_ok (Run.exec_memory s), Request.windows_ok_iff.mpr hw]
  dsimp only
  rw [Run.exec_bind_ok (Run.exec_reportAll _ s), acquire_withRoutines]
  exact (Run.exec_bind_ok hx _).trans (Run.exec_bind_ok (Run.exec_report ..) _)

theorem execute_exec_of_handle (m : Manager σ) (hw : r.Fits s.memory mode w) {handle : Handle}
    {t : State σ} (hx : (m.acquire r.key).exec (dumped r w s) = (.ok (.ok handle), t))
    (f : Nat → PostCall → Run σ Unit) :
    ((m.withRoutines f).execute mode r block).exec s =
      ((m.withRoutines f).carryOut mode r block w handle).exec t := by
  unfold execute
  rw [Run.exec_bind_ok (Run.exec_memory s), Request.windows_ok_iff.mpr hw]
  dsimp only
  rw [Run.exec_bind_ok (Run.exec_reportAll _ s), acquire_withRoutines]
  exact Run.exec_bind_ok hx _

/-- A request without a device is settled as failed. -/
theorem execute_unavailable (m : Manager σ) (hb : ∀ b, block = some b → b.Fits s.memory)
    (hw : r.Fits s.memory mode w) {e : RequestError}
    (ha : (m.acquisition r.key s.registry s.world).outcome = .error e) :
    ∃ es, ∀ f, ((m.withRoutines f).execute mode r block).exec s =
      (.ok (r.settle .failed),
        (s.acquired (m.acquisition r.key s.registry s.world) es).stamped (r.settle .failed)
          block) := by
  have hst := status_of_acquisition_error ha
  obtain ⟨es, hacq⟩ := m.acquire_exec r.key (dumped r w s)
  have hx : (m.acquire r.key).exec (dumped r w s) = (.ok (.error e), _) :=
    hacq.trans (congrArg (Prod.mk · _) (congrArg Except.ok ha))
  have hset := settle_exec (s := s.acquired (m.acquisition r.key s.registry s.world)
    (es.push (unopened r.key e))) block hb r .failed
  rw [← hst] at hset ⊢
  exact ⟨_, fun f => (m.execute_exec_of_error hw hx f).trans hset⟩

/-! ## Requests that are carried out -/

theorem delivered_exec {window : Option Range} (hw : ∀ d, window = some d → d.stop ≤ s.memory.size)
    (n : Nat) : (delivered window n : Run σ Bytes).exec s = (.ok (s.memory.readFront window n), s) := by
  cases window with
  | none => rfl
  | some d =>
    have hd : (d.truncate n).stop ≤ s.memory.size := by
      have := hw d rfl
      unfold Range.truncate Range.stop at *
      dsimp only
      omega
    rw [delivered, Run.exec_slice, Memory.slice_ok hd]
    rfl

/-- The dump of what was delivered changes nothing but the log. -/
theorem dumpResult_exec (hw : w.Sound s.memory) (r : Request) (d : Delivery) :
    (dumpResult r w d : Run σ Unit).exec s = (.ok (), { s with
      events := s.events ++ Log.Dump.result r (s.memory.readFront w.data d.dataCopied)
        (s.memory.readFront w.sense d.senseCopied) }) := by
  have hd := delivered_exec (fun d hd => (hw.data d hd).2) d.dataCopied
  have hs := delivered_exec (fun q hq => (hw.sense q hq).2) d.senseCopied
  rw [dumpResult, Run.exec_bind_ok hd, Run.exec_bind_ok hs]
  rfl

theorem settle_pending (r : Request) (st : Status) :
    Request.settle { r with status := .pending } st = r.settle st := by
  cases st <;> rfl

/-- What is reported of a request that was settled with the outcome of its exchange. -/
def closing (r : Request) (w : Windows Range) (n : Memory) :
    Except RequestError Delivery → List Log.Event
  | .error _ => []
  | .ok d => Log.Dump.result r (n.readFront w.data d.dataCopied) (n.readFront w.sense d.senseCopied)

/-- The state in which a request is settled after an exchange that left the state `t`. -/
def closed (r : Request) (block : Option Block) (w : Windows Range)
    (outcome : Except RequestError Delivery) (t : State σ) : State σ :=
  let settled := r.settle (outcomeStatus outcome)
  { t.stamped settled block with
    events := t.events ++ verdictEvents (outcomeStatus outcome) ++
      closing settled w (t.memory.stamp settled block) outcome }

/-- A round trip that breaks down ends the run. -/
theorem carryOut_exec_of_fault (m : Manager σ) (mode : AddressingMode) (handle : Handle)
    (hb : ∀ b, block = some b → b.Fits s.memory) {e : Fault} {t : State σ}
    (hx : (m.roundTrip handle { r with status := .pending } w).exec
      (s.stamped { r with status := .pending } block) = (.error e, t))
    (f : Nat → PostCall → Run σ Unit) :
    ((m.withRoutines f).carryOut mode r block w handle).exec s = (.error e, t) := by
  unfold carryOut
  dsimp only
  rw [Run.exec_bind_ok (writeBack_exec hb _), roundTrip_withRoutines]
  exact Run.exec_bind_error hx _

/-- A request is settled with the outcome of its round trip, and then its post routine is
notified. -/
theorem carryOut_exec_of_outcome (m : Manager σ) (mode : AddressingMode) (handle : Handle)
    (hb : ∀ b, block = some b → b.Fits s.memory) (hw : w.Sound s.memory)
    {outcome : Except RequestError Delivery} {t : State σ}
    (hx : (m.roundTrip handle { r with status := .pending } w).exec
      (s.stamped { r with status := .pending } block) = (.ok outcome, t))
    (hsize : t.memory.size = s.memory.size) (f : Nat → PostCall → Run σ Unit) :
    ((m.withRoutines f).carryOut mode r block w handle).exec s =
      (do (m.withRoutines f).notify mode (r.settle (outcomeStatus outcome)) block
          return r.settle (outcomeStatus outcome)).exec (closed r block w outcome t) := by
  have hset := settle_exec (s := t) block (fun b hb' => (hb b hb').of_size hsize)
    { r with status := .pending } (outcomeStatus outcome)
  rw [settle_pending] at hset
  unfold carryOut
  dsimp only
  rw [Run.exec_bind_ok (writeBack_exec hb _), roundTrip_withRoutines]
  refine (Run.exec_bind_ok hx _).trans ((Run.exec_bind_ok hset _).trans ?_)
  cases outcome with
  | error e => rfl
  | ok d =>
    have hdump := dumpResult_exec
      (s := { t with events := t.events ++ verdictEvents (outcomeStatus (.ok d)) }.stamped
        (r.settle (outcomeStatus (.ok d))) block)
      (hw.of_size ((Memory.size_stamp ..).trans hsize)) (r.settle (outcomeStatus (.ok d))) d
    exact Run.exec_bind_ok hdump _

theorem carryOut_exec (m : Manager σ) (mode : AddressingMode) (handle : Handle)
    (block : Option Block) (hb : ∀ b, block = some b → b.Fits s.memory)
    (hc : r.checkCommand = .ok ()) (hw : w.Sound s.memory) {t : Trip σ}
    (ht : t = m.trip handle.channel r w (s.memory.stamp { r with status := .pending } block)
      s.world) :
    ∃ es, ∀ f, ((m.withRoutines f).carryOut mode r block w handle).exec s =
      match t.outcome with
      | .error e => (.error e, s.travelled t es)
      | .ok st =>
        (do (m.withRoutines f).notify mode (r.settle st) block
            return r.settle st).exec ((s.travelled t es).stamped (r.settle st) block) := by
  -- The trip is made for the pending request, and the request that is settled forgets it was one.
  let p : Request := { r with status := .pending }
  have hp : t = m.trip handle.channel p w (s.memory.stamp p block) s.world := ht
  have hsize : t.memory.size = s.memory.size := by
    rw [hp, size_trip, Memory.size_stamp]
  obtain ⟨es, o, htrip, ho⟩ := m.roundTrip_exec (s := s.stamped p block) handle (r := p) hc
    (hw.of_size (Memory.size_stamp ..))
  dsimp only [State.stamped] at htrip ho
  rw [← hp] at htrip ho
  rw [← ho]
  cases o with
  | error e => exact ⟨es, m.carryOut_exec_of_fault mode handle hb htrip⟩
  | ok outcome =>
    exact ⟨(closed r block w outcome ((s.stamped p block).travelled t es)).events,
      m.carryOut_exec_of_outcome mode handle hb hw htrip hsize⟩

/-- The round trip of a request: it starts from the memory in which the block shows that the
request is pending, after the device was acquired. -/
def journey (m : Manager σ) (r : Request) (block : Option Block) (w : Windows Range)
    (handle : Handle) (s : State σ) : Trip σ :=
  m.trip handle.channel r w (s.memory.stamp { r with status := .pending } block)
    (m.acquisition r.key s.registry s.world).world

/-- A request whose device is there is carried out. If the host does not break down, it is settled
with the outcome of its round trip and its post routine is notified. -/
theorem execute_carried (m : Manager σ) (hb : ∀ b, block = some b → b.Fits s.memory)
    (hw : r.Fits s.memory mode w) {handle : Handle}
    (ha : (m.acquisition r.key s.registry s.world).outcome = .ok handle) :
    ∃ es, ∀ f, ((m.withRoutines f).execute mode r block).exec s =
      match (m.journey r block w handle s).outcome with
      | .error e =>
        (.error e, (s.acquired (m.acquisition r.key s.registry s.world) es).travelled
          (m.journey r block w handle s) es)
      | .ok st =>
        (do (m.withRoutines f).notify mode (r.settle st) block
            return r.settle st).exec
          (((s.acquired (m.acquisition r.key s.registry s.world) es).travelled
            (m.journey r block w handle s) es).stamped (r.settle st) block) := by
  obtain ⟨es, hacq⟩ := m.acquire_exec r.key (dumped r w s)
  have hx : (m.acquire r.key).exec (dumped r w s) = (.ok (.ok handle), _) :=
    hacq.trans (congrArg (Prod.mk · _) (congrArg Except.ok ha))
  obtain ⟨es', h⟩ := m.carryOut_exec mode handle (r := r) (w := w)
    (s := s.acquired (m.acquisition r.key s.registry s.world) es) block hb
    (Request.checkCommand_ok_iff.mpr hw.command) hw.sound rfl
  exact ⟨es', fun f => (m.execute_exec_of_handle hw hx f).trans (h f)⟩

end Manager

end AspiManager
