import AspiManager.Proofs.Attempts

/-!
# What an execution depends on

A request that posts to no routine is executed as a function of the state (`Manager.execution`,
`execute_exec`). It depends on little of the state: the size and the table of the memory, the handle
of its device, the octets of its data window, and the part of the host's state that its device is
in. `execution_alike` compares two executions of one request that agree on these, with or without a
block: they come to the same, and do the same to what they do not agree on.

The part of the host's state is given by a function (`view`), so that nothing is assumed of how a
host keeps its devices. `Manager.Does` lists the operations of the host that a request for a device
can cause. The device is in a part if these work on the part alone (`WorksOn`), and other parts are
not its concern if these leave them as they are (`Spares`).
-/

namespace AspiManager

/-! ## Parts of a host's state -/

section

variable {σ α β : Type}

/-- What an operation answers, and what it makes of a part of the state, comes from this part. -/
def WorksOn (op : σ → α × σ) (view : σ → β) : Prop :=
  ∀ w w', view w = view w' → (op w).1 = (op w').1 ∧ view (op w).2 = view (op w').2

/-- An operation leaves a part of the state as it is. -/
def Spares (op : σ → α × σ) (view : σ → β) : Prop := ∀ w, view (op w).2 = view w

theorem worksOn_id (op : σ → α × σ) : WorksOn op id := by
  intro w w' h
  cases h
  exact ⟨rfl, rfl⟩

end

namespace Manager

variable {σ : Type}

/-- The operations of the host that a request for a device can cause: its node is opened if it has
no handle, and octets pass over the channel that it has then. -/
inductive Does (m : Manager σ) (s : State σ) (key : DeviceKey) : {α : Type} → (σ → α × σ) → Prop
  | opening {path : String} (hf : s.registry.find? key = none) (hd : m.directory key = some path) :
    Does m s key (m.host.openNode path)
  | writing {handle : Handle} (ha : (m.acquisition key s.registry s.world).outcome = .ok handle)
    (octets : Bytes) : Does m s key (m.host.write handle.channel octets)
  | reading {handle : Handle} (ha : (m.acquisition key s.registry s.world).outcome = .ok handle)
    (count : Nat) : Does m s key (m.host.read handle.channel count)

/-- The device is in a part of the host's state. -/
def Within {β : Type} (m : Manager σ) (s : State σ) (key : DeviceKey) (view : σ → β) : Prop :=
  ∀ {α : Type} (op : σ → α × σ), m.Does s key op → WorksOn op view

/-- The device is beside a part of the host's state. -/
def Beside {β : Type} (m : Manager σ) (s : State σ) (key : DeviceKey) (view : σ → β) : Prop :=
  ∀ {α : Type} (op : σ → α × σ), m.Does s key op → Spares op view

end Manager

/-! ## Executions -/

/-- What the execution of a request comes to: the status that it is settled with, and what is left
behind. -/
structure Execution (σ : Type) where
  outcome : Except Fault Status
  memory : Memory
  registry : Registry
  world : σ
  effects : List Effect

/-- The state in which an execution leaves a run that has reported `es` by then. -/
def State.executed {σ : Type} (s : State σ) (x : Execution σ) (es : Array Log.Event) : State σ :=
  { s with memory := x.memory, registry := x.registry, world := x.world, events := es
           effects := s.effects ++ x.effects }

namespace Manager

variable {σ : Type}

/-- The execution of a request that posts to no routine. -/
def execution (m : Manager σ) (mode : AddressingMode) (r : Request) (block : Option Block)
    (s : State σ) : Execution σ :=
  match r.windows s.memory mode with
  | .error _ => ⟨.ok .invalid, s.memory.stamp (r.settle .invalid) block, s.registry, s.world, []⟩
  | .ok w =>
    let a := m.acquisition r.key s.registry s.world
    match a.outcome with
    | .error _ =>
      ⟨.ok .failed, s.memory.stamp (r.settle .failed) block, a.registry, a.world, a.effects⟩
    | .ok handle =>
      let t := m.journey r block w handle s
      match t.outcome with
      | .error e => ⟨.error e, t.memory, a.registry, t.world, a.effects ++ t.effects⟩
      | .ok st =>
        ⟨.ok st, t.memory.stamp (r.settle st) block, a.registry, t.world, a.effects ++ t.effects⟩

/-- The ways in which an execution can go. -/
inductive Way (m : Manager σ) (mode : AddressingMode) (r : Request) (block : Option Block)
    (s : State σ) : Execution σ → Prop
  /-- The request has no windows. -/
  | rejected {e : RequestError} (hw : r.windows s.memory mode = .error e) :
    Way m mode r block s
      ⟨.ok .invalid, s.memory.stamp (r.settle .invalid) block, s.registry, s.world, []⟩
  /-- The device cannot be had. -/
  | unavailable {w : Windows Range} {e : RequestError} (hw : r.windows s.memory mode = .ok w)
    (hd : (m.acquisition r.key s.registry s.world).outcome = .error e) :
    Way m mode r block s
      ⟨.ok .failed, s.memory.stamp (r.settle .failed) block,
        (m.acquisition r.key s.registry s.world).registry,
        (m.acquisition r.key s.registry s.world).world,
        (m.acquisition r.key s.registry s.world).effects⟩
  /-- The host breaks down in the round trip. -/
  | crashed {w : Windows Range} {handle : Handle} {f : Fault}
    (hw : r.windows s.memory mode = .ok w)
    (hd : (m.acquisition r.key s.registry s.world).outcome = .ok handle)
    (hj : (m.journey r block w handle s).outcome = .error f) :
    Way m mode r block s
      ⟨.error f, (m.journey r block w handle s).memory,
        (m.acquisition r.key s.registry s.world).registry, (m.journey r block w handle s).world,
        (m.acquisition r.key s.registry s.world).effects ++
          (m.journey r block w handle s).effects⟩
  /-- The request is settled with the outcome of its round trip. -/
  | settled {w : Windows Range} {handle : Handle} {st : Status}
    (hw : r.windows s.memory mode = .ok w)
    (hd : (m.acquisition r.key s.registry s.world).outcome = .ok handle)
    (hj : (m.journey r block w handle s).outcome = .ok st) :
    Way m mode r block s
      ⟨.ok st, (m.journey r block w handle s).memory.stamp (r.settle st) block,
        (m.acquisition r.key s.registry s.world).registry, (m.journey r block w handle s).world,
        (m.acquisition r.key s.registry s.world).effects ++
          (m.journey r block w handle s).effects⟩

theorem execution_way (m : Manager σ) (mode : AddressingMode) (r : Request)
    (block : Option Block) (s : State σ) : m.Way mode r block s (m.execution mode r block s) := by
  unfold execution
  cases hw : r.windows s.memory mode with
  | error e => exact .rejected hw
  | ok w =>
    dsimp only
    cases hd : (m.acquisition r.key s.registry s.world).outcome with
    | error e => exact .unavailable hw hd
    | ok handle =>
      dsimp only
      cases hj : (m.journey r block w handle s).outcome with
      | error f => exact .crashed hw hd hj
      | ok st => exact .settled hw hd hj

variable {m : Manager σ} {mode : AddressingMode} {r : Request} {block : Option Block}
  {s : State σ} {w : Windows Range} {handle : Handle}

theorem size_journey (m : Manager σ) (r : Request) (block : Option Block) (w : Windows Range)
    (handle : Handle) (s : State σ) :
    (m.journey r block w handle s).memory.size = s.memory.size :=
  (size_trip ..).trans (Memory.size_stamp ..)

/-- An execution leaves the size of the memory and the table alone. -/
theorem execution_frame (m : Manager σ) (mode : AddressingMode) (r : Request)
    (block : Option Block) (s : State σ) :
    (m.execution mode r block s).memory.size = s.memory.size ∧
      (m.execution mode r block s).memory.table = s.memory.table := by
  have h := m.execution_way mode r block s
  generalize m.execution mode r block s = x at h ⊢
  cases h with
  | rejected | unavailable => exact ⟨Memory.size_stamp .., Memory.table_stamp ..⟩
  | crashed => exact ⟨size_journey .., (table_trip ..).trans (Memory.table_stamp ..)⟩
  | settled =>
    refine ⟨(Memory.size_stamp ..).trans (size_journey ..), (Memory.table_stamp ..).trans ?_⟩
    exact (table_trip ..).trans (Memory.table_stamp ..)

/-- With a steady host an execution has a status. -/
theorem exists_status_execution (hh : m.host.Steady) (mode : AddressingMode) (r : Request)
    (block : Option Block) (s : State σ) : ∃ st, (m.execution mode r block s).outcome = .ok st := by
  have h := m.execution_way mode r block s
  generalize m.execution mode r block s = x at h ⊢
  cases h with
  | rejected | unavailable | settled => exact ⟨_, rfl⟩
  | crashed hw hd hj =>
    unfold journey at hj
    rw [trip_outcome hh] at hj
    cases hj

/-- The block of a request that was executed shows its status. -/
theorem execution_shows {b : Block} {st : Status} (hb : b.Fits s.memory)
    (ho : (m.execution mode r (some b) s).outcome = .ok st) :
    b.Shows (m.execution mode r (some b) s).memory (r.settle st) := by
  have h := m.execution_way mode r (some b) s
  generalize m.execution mode r (some b) s = x at h ho ⊢
  cases h with
  | rejected | unavailable =>
    cases ho
    exact Memory.shows_stamp hb _
  | crashed => cases ho
  | settled =>
    cases ho
    exact Memory.shows_stamp (hb.of_size (size_journey ..)) _

/-- The posting that is due after an execution: that of the settled request, if it was carried
out. -/
def due (m : Manager σ) (mode : AddressingMode) (r : Request) (block : Option Block)
    (s : State σ) : Option Posting :=
  match r.windows s.memory mode, (m.acquisition r.key s.registry s.world).outcome,
      (m.execution mode r block s).outcome with
  | .ok _, .ok _, .ok st =>
    posting? mode (r.settle st) block (m.execution mode r block s).memory s.routines
  | _, _, _ => none

theorem due_of_not_posted (hp : postEntry? r = none) : m.due mode r block s = none := by
  unfold due
  split
  · unfold posting?
    rw [postEntry?_settle, hp]
    rfl
  · rfl

/-- A run of `execute` comes to the execution, and then its posting is done. -/
theorem execute_finish (m : Manager σ) (mode : AddressingMode)
    (hb : ∀ b, block = some b → b.Fits s.memory) :
    ∃ es, ∀ f, ((m.withRoutines f).execute mode r block).exec s =
      finish f ((m.execution mode r block s).outcome.map r.settle)
        (s.executed (m.execution mode r block s) es) (m.due mode r block s) := by
  unfold due execution State.executed
  by_cases hu : r.Unfit s.memory mode
  · obtain ⟨es, he⟩ := m.execute_rejected hb hu
    obtain ⟨e, hw⟩ := Request.windows_error_iff.mpr hu
    refine ⟨es, fun f => (he f).trans ?_⟩
    simp [hw, State.stamped, Except.map, finish, conclude]
  obtain ⟨w, hw⟩ := Request.exists_fits hu
  rw [Request.windows_ok_iff.mpr hw]
  dsimp only
  cases hd : (m.acquisition r.key s.registry s.world).outcome with
  | error e => exact m.execute_unavailable hb hw hd
  | ok handle =>
    dsimp only
    cases hj : (m.journey r block w handle s).outcome with
    | error e =>
      obtain ⟨es, he⟩ := m.execute_carried hb hw hd
      rw [hj] at he
      refine ⟨es, fun f => (he f).trans ?_⟩
      simp [State.acquired, State.travelled, Except.map, finish, Run.append_lists]
    | ok st =>
      obtain ⟨es, he⟩ := m.execute_settled hb hw hd hj
      refine ⟨es, fun f => (he f).trans ?_⟩
      simp [finish, settlement, State.stamped, State.acquired, State.travelled, Except.map,
        Run.append_lists]

/-- Without a posting a run of `execute` comes to the execution. -/
theorem execute_exec (m : Manager σ) (mode : AddressingMode)
    (hb : ∀ b, block = some b → b.Fits s.memory) (hp : postEntry? r = none) :
    ∃ es, (m.execute mode r block).exec s =
      ((m.execution mode r block s).outcome.map r.settle,
        s.executed (m.execution mode r block s) es) := by
  obtain ⟨es, hx⟩ := m.execute_finish mode hb
  refine ⟨es, (hx m.routine).trans ?_⟩
  rw [due_of_not_posted hp]
  cases (m.execution mode r block s).outcome <;> rfl

theorem submit_exec (m : Manager σ) (mode : AddressingMode) (hp : postEntry? r = none)
    (s : State σ) : ∃ es, (m.submit mode r).exec s =
      ((m.execution mode r none s).outcome.map r.settle,
        s.executed (m.execution mode r none s) es) :=
  m.execute_exec mode (by simp) hp

end Manager

/-! ## Exchanges that agree on a part -/

section

variable {σ β : Type} {view : σ → β}

/-- Two conversations that nobody can tell apart who sees a part of the host. -/
structure Conversation.Alike (view : σ → β) (c c' : Conversation σ) : Prop where
  outcome : c.outcome = c'.outcome
  world : view c.world = view c'.world
  effects : c.effects = c'.effects

namespace Host

variable {h : Host σ} {channel : Nat} {w w' : σ}

theorem listen_alike (count : Nat) (hr : WorksOn (h.read channel count) view)
    (hw : view w = view w') :
    (h.listen channel count w).Alike view (h.listen channel count w') := by
  obtain ⟨ha, hv⟩ := hr w w' hw
  unfold listen
  generalize h.read channel count w = x at ha hv
  generalize h.read channel count w' = x' at ha hv
  obtain ⟨a, u⟩ := x
  obtain ⟨a', u'⟩ := x'
  cases ha
  cases a <;> exact ⟨rfl, hv, rfl⟩

theorem converse_alike (octets : Bytes) (count : Nat)
    (hwrite : WorksOn (h.write channel octets) view) (hread : WorksOn (h.read channel count) view)
    (hw : view w = view w') :
    (h.converse channel octets count w).Alike view (h.converse channel octets count w') := by
  obtain ⟨ha, hv⟩ := hwrite w w' hw
  unfold converse
  generalize h.write channel octets w = x at ha hv
  generalize h.write channel octets w' = x' at ha hv
  obtain ⟨a, u⟩ := x
  obtain ⟨a', u'⟩ := x'
  cases ha
  cases a with
  | done n =>
    dsimp only
    by_cases hn : n = octets.length
    · obtain ⟨ho, hv, he⟩ := listen_alike count hread hv
      rw [if_pos hn, if_pos hn]
      exact ⟨ho, hv, congrArg (List.cons _) he⟩
    · rw [if_neg hn, if_neg hn]
      exact ⟨rfl, hv, rfl⟩
  | failed e => exact ⟨rfl, hv, rfl⟩
  | crashed => exact ⟨rfl, hv, rfl⟩

theorem listen_spares (count : Nat) (hr : Spares (h.read channel count) view) (w : σ) :
    view (h.listen channel count w).world = view w := by
  have hv := hr w
  unfold listen
  generalize h.read channel count w = x at hv
  obtain ⟨a, u⟩ := x
  cases a <;> exact hv

theorem converse_spares (octets : Bytes) (count : Nat)
    (hwrite : Spares (h.write channel octets) view) (hread : Spares (h.read channel count) view)
    (w : σ) : view (h.converse channel octets count w).world = view w := by
  have hv := hwrite w
  unfold converse
  generalize h.write channel octets w = x at hv
  obtain ⟨a, u⟩ := x
  cases a with
  | done n =>
    dsimp only
    by_cases hn : n = octets.length
    · rw [if_pos hn]
      exact (listen_spares count hread u).trans hv
    · rw [if_neg hn]
      exact hv
  | failed e => exact hv
  | crashed => exact hv

end Host

/-! ## Trips -/

theorem Memory.octet_fillWindow_congr {m m' : Memory} (hs : m.size = m'.size)
    (window : Option Range) (bs : Bytes) {a : Nat} (ha : m.octet a = m'.octet a) :
    (m.fillWindow window bs).octet a = (m'.fillWindow window bs).octet a := by
  cases window with
  | none => exact ha
  | some r =>
    unfold fillWindow
    rw [octet_put, octet_put, hs, ha]

theorem Memory.octet_fill_congr {m m' : Memory} (hs : m.size = m'.size) (w : Windows Range)
    (data sense : Bytes) {a : Nat} (ha : m.octet a = m'.octet a) :
    (m.fill w data sense).octet a = (m'.fill w data sense).octet a := by
  unfold fill
  refine octet_fillWindow_congr (by simp [hs]) w.sense sense ?_
  exact octet_fillWindow_congr hs w.data data ha

/-- Two trips that come to the same, and put the same into the windows. -/
structure Trip.Alike (view : σ → β) (memory memory' : Memory) (t t' : Trip σ) : Prop where
  outcome : t.outcome = t'.outcome
  world : view t.world = view t'.world
  effects : t.effects = t'.effects
  octet : ∀ a, memory.octet a = memory'.octet a → t.memory.octet a = t'.memory.octet a

namespace Manager

variable {m : Manager σ} {channel : Nat} {r : Request} {w : Windows Range}
  {memory memory' : Memory} {world world' : σ}

theorem trip_alike (hs : memory.size = memory'.size)
    (hp : memory.payload r w = memory'.payload r w)
    (hwrite : ∀ octets, WorksOn (m.host.write channel octets) view)
    (hread : ∀ count, WorksOn (m.host.read channel count) view) (hv : view world = view world') :
    (m.trip channel r w memory world).Alike view memory memory'
      (m.trip channel r w memory' world') := by
  have ho : r.outbound memory w = r.outbound memory' w := by
    unfold Request.outbound
    rw [hp]
  unfold trip
  by_cases hl : r.TooLong
  · rw [if_pos hl, if_pos hl]
    exact ⟨rfl, hv, rfl, fun a ha => ha⟩
  rw [if_neg hl, if_neg hl, ho]
  have hc := Host.converse_alike (r.outbound memory' w) r.expectedReply (hwrite _) (hread _) hv
  generalize m.host.converse channel (r.outbound memory' w) r.expectedReply world = c at hc
  generalize m.host.converse channel (r.outbound memory' w) r.expectedReply world' = c' at hc
  obtain ⟨o, u, es⟩ := c
  obtain ⟨o', u', es'⟩ := c'
  obtain ⟨hout, hu, he⟩ := hc
  dsimp only at hout hu he ⊢
  subst hout he
  rcases o with e | e | raw
  · exact ⟨rfl, hu, rfl, fun a ha => ha⟩
  · exact ⟨rfl, hu, rfl, fun a ha => ha⟩
  · dsimp only
    by_cases hr : raw.int32 12 = 0
    · rw [if_pos hr, if_pos hr]
      exact ⟨rfl, hu, rfl, fun a ha => Memory.octet_fill_congr hs w _ _ ha⟩
    · rw [if_neg hr, if_neg hr]
      exact ⟨rfl, hu, rfl, fun a ha => ha⟩

theorem trip_spares (hwrite : ∀ octets, Spares (m.host.write channel octets) view)
    (hread : ∀ count, Spares (m.host.read channel count) view) (r : Request) (w : Windows Range)
    (memory : Memory) (world : σ) : view (m.trip channel r w memory world).world = view world := by
  unfold trip
  by_cases hl : r.TooLong
  · rw [if_pos hl]
  rw [if_neg hl]
  have hv := Host.converse_spares (r.outbound memory w) r.expectedReply (hwrite _) (hread _) world
  generalize m.host.converse channel (r.outbound memory w) r.expectedReply world = c at hv
  obtain ⟨o, u, es⟩ := c
  rcases o with e | e | raw
  · exact hv
  · exact hv
  · dsimp only
    split <;> exact hv

/-- What passes in a trip is the conversation, if there is one. -/
theorem effects_trip (m : Manager σ) (channel : Nat) (r : Request) (w : Windows Range)
    (memory : Memory) (world : σ) : (m.trip channel r w memory world).effects = [] ∨
      (m.trip channel r w memory world).effects =
        (m.host.converse channel (r.outbound memory w) r.expectedReply world).effects := by
  unfold trip
  split
  · exact .inl rfl
  · refine .inr ?_
    dsimp only
    split
    · rfl
    · rfl
    · split <;> rfl

end Manager

end

/-! ## Acquisitions -/

/-- A registry that has gained the handles and the counts of another. -/
def Registry.plus (g d : Registry) : Registry :=
  ⟨d.handles ++ g.handles, g.opens + d.opens, g.hits + d.hits, g.misses + d.misses⟩

section

variable {σ β : Type} {view : σ → β} {m : Manager σ} {s s' : State σ} {key : DeviceKey}

/-- Two acquisitions that come to the same, and do the same to the registries. -/
structure Acquisition.Alike (view : σ → β) (g g' : Registry) (a a' : Acquisition σ) : Prop where
  outcome : a.outcome = a'.outcome
  world : view a.world = view a'.world
  effects : a.effects = a'.effects
  registry : ∃ d, a.registry = g.plus d ∧ a'.registry = g'.plus d

namespace Manager

theorem acquisition_alike (hin : m.Within s key view) (hv : view s.world = view s'.world)
    (hf : s.registry.find? key = s'.registry.find? key) :
    (m.acquisition key s.registry s.world).Alike view s.registry s'.registry
      (m.acquisition key s'.registry s'.world) := by
  unfold acquisition
  rw [← hf]
  cases hfind : s.registry.find? key with
  | some handle => exact ⟨rfl, hv, rfl, ⟨[], 0, 1, 0⟩, rfl, rfl⟩
  | none =>
    cases hd : m.directory key with
    | none => exact ⟨rfl, hv, rfl, ⟨[], 0, 0, 1⟩, rfl, rfl⟩
    | some path =>
      obtain ⟨ha, hv⟩ := hin _ (.opening hfind hd) s.world s'.world hv
      dsimp only
      generalize m.host.openNode path s.world = x at ha hv
      generalize m.host.openNode path s'.world = x' at ha hv
      obtain ⟨o, u⟩ := x
      obtain ⟨o', u'⟩ := x'
      cases ha
      cases o with
      | error e => exact ⟨rfl, hv, rfl, ⟨[], 1, 0, 1⟩, rfl, rfl⟩
      | ok channel => exact ⟨rfl, hv, rfl, ⟨[⟨key, path, channel⟩], 1, 0, 1⟩, rfl, rfl⟩

theorem acquisition_spares (hbeside : m.Beside s key view) :
    view (m.acquisition key s.registry s.world).world = view s.world := by
  unfold acquisition
  cases hfind : s.registry.find? key with
  | some handle => rfl
  | none =>
    cases hd : m.directory key with
    | none => rfl
    | some path =>
      have hv := hbeside _ (.opening hfind hd) s.world
      dsimp only
      generalize m.host.openNode path s.world = x at hv
      obtain ⟨o, u⟩ := x
      cases o <;> exact hv

end Manager

end

/-! ## Executions of one request -/

/-- A block shows no status at an address. -/
def StatusFree (block : Option Block) (a : Nat) : Prop :=
  ∀ b, block = some b → ¬ b.ShowsStatus a

section

variable {σ β : Type} {view : σ → β} {m : Manager σ} {mode : AddressingMode} {r : Request}
  {block block' : Option Block} {s s' : State σ} {w : Windows Range}

/-- Two states agree on what a request depends on, with a block in each. -/
structure Agree (mode : AddressingMode) (r : Request) (view : σ → β) (block block' : Option Block)
    (s s' : State σ) : Prop where
  size : s.memory.size = s'.memory.size
  table : s.memory.table = s'.memory.table
  handle : s.registry.find? r.key = s'.registry.find? r.key
  world : view s.world = view s'.world
  data : r.direction = .output → ∀ w d a, r.Fits s.memory mode w → w.data = some d →
    d.Contains a → s.memory.octet a = s'.memory.octet a ∧ StatusFree block a ∧ StatusFree block' a

/-- Two executions that come to the same, and do the same to the registries and, besides the
statuses of the blocks, to the memories. -/
structure Execution.Alike (view : σ → β) (block block' : Option Block) (s s' : State σ)
    (x x' : Execution σ) : Prop where
  outcome : x.outcome = x'.outcome
  world : view x.world = view x'.world
  effects : x.effects = x'.effects
  registry : ∃ d, x.registry = s.registry.plus d ∧ x'.registry = s'.registry.plus d
  octet : ∀ a, StatusFree block a → StatusFree block' a → s.memory.octet a = s'.memory.octet a →
    x.memory.octet a = x'.memory.octet a

namespace Manager

theorem windows_congr {memory memory' : Memory} (hs : memory.size = memory'.size)
    (ht : memory.table = memory'.table) : r.windows memory mode = r.windows memory' mode := by
  have hresolve := Memory.resolve_congr hs ht mode
  unfold Request.windows Request.windows.resolve
  simp only [hresolve]

/-- The octets for the device are those of the data window, which shows no status. -/
theorem payload_alike (h : Agree mode r view block block' s s')
    (hb : ∀ b, block = some b → b.Fits s.memory) (hb' : ∀ b, block' = some b → b.Fits s'.memory)
    (hw : r.Fits s.memory mode w) (p : Request) :
    (s.memory.stamp p block).payload r w = (s'.memory.stamp p block').payload r w := by
  unfold Memory.payload
  cases hdir : r.direction with
  | input | both | unchecked => rfl
  | output =>
    cases hd : w.data with
    | none => rfl
    | some d =>
      refine Memory.read_congr (by simp [h.size]) fun a ha ha' => ?_
      obtain ⟨hoctet, hfree, hfree'⟩ := h.data hdir w d a hw hd ⟨ha, ha'⟩
      rw [Memory.octet_stamp_of_not hb p hfree, Memory.octet_stamp_of_not hb' p hfree', hoctet]

/-- One request is executed alike in states that agree on what it depends on. -/
theorem execution_alike (hin : m.Within s r.key view) (h : Agree mode r view block block' s s')
    (hb : ∀ b, block = some b → b.Fits s.memory) (hb' : ∀ b, block' = some b → b.Fits s'.memory) :
    (m.execution mode r block s).Alike view block block' s s'
      (m.execution mode r block' s') := by
  have hsame : ∀ g : Registry, g = g.plus {} := fun g => rfl
  unfold execution
  rw [← windows_congr h.size h.table]
  cases hw : r.windows s.memory mode with
  | error e =>
    refine ⟨rfl, h.world, rfl, ⟨{}, hsame _, hsame _⟩, fun a ha ha' he => ?_⟩
    rw [Memory.octet_stamp_of_not hb _ ha, Memory.octet_stamp_of_not hb' _ ha', he]
  | ok w =>
    have hfits := Request.windows_ok_iff.mp hw
    obtain ⟨hout, hworld, heff, hreg⟩ := acquisition_alike hin h.world h.handle
    dsimp only
    rw [← hout]
    cases hd : (m.acquisition r.key s.registry s.world).outcome with
    | error e =>
      refine ⟨rfl, hworld, heff, hreg, fun a ha ha' he => ?_⟩
      rw [Memory.octet_stamp_of_not hb _ ha, Memory.octet_stamp_of_not hb' _ ha', he]
    | ok handle =>
      let p : Request := { r with status := .pending }
      have hstamped : (s.memory.stamp p block).size = (s'.memory.stamp p block').size := by
        simp [h.size]
      have htrip := trip_alike hstamped (payload_alike h hb hb' hfits p)
        (fun octets => hin _ (.writing hd octets)) (fun count => hin _ (.reading hd count)) hworld
      have hoctet : ∀ a, StatusFree block a → StatusFree block' a →
          s.memory.octet a = s'.memory.octet a →
          (m.journey r block w handle s).memory.octet a =
            (m.journey r block' w handle s').memory.octet a := by
        intro a ha ha' he
        refine htrip.octet a ?_
        rw [Memory.octet_stamp_of_not hb _ ha, Memory.octet_stamp_of_not hb' _ ha', he]
      obtain ⟨ho, hv, he, -⟩ := htrip
      change (m.journey r block w handle s).outcome = (m.journey r block' w handle s').outcome at ho
      dsimp only
      rw [← ho]
      cases hj : (m.journey r block w handle s).outcome with
      | error e => exact ⟨rfl, hv, congrArg₂ _ heff he, hreg, hoctet⟩
      | ok st =>
        refine ⟨rfl, hv, congrArg₂ _ heff he, hreg, fun a ha ha' heq => ?_⟩
        dsimp only
        rw [Memory.octet_stamp_of_not (fun b hbl => (hb b hbl).of_size (size_journey ..)) _ ha,
          Memory.octet_stamp_of_not (fun b hbl => (hb' b hbl).of_size (size_journey ..)) _ ha',
          hoctet a ha ha' heq]

end Manager

end

/-! ## What an execution leaves alone -/

/-- An address lies in one of the windows. -/
def Windows.Contains (w : Windows Range) (a : Nat) : Prop :=
  (∃ d, w.data = some d ∧ d.Contains a) ∨ ∃ q, w.sense = some q ∧ q.Contains a

/-- The octets that an effect offers to a channel. -/
def Effect.offered (channel : Nat) : Effect → Option Bytes
  | .wrote c octets => if c = channel then some octets else none
  | .opened _ | .asked .. | .called .. => none

section

variable {σ β : Type} {view : σ → β} {m : Manager σ} {mode : AddressingMode} {r : Request}
  {block : Option Block} {s : State σ} {w : Windows Range}

theorem Memory.octet_fill_of_not_contains {m : Memory} {a : Nat} (ha : ¬ w.Contains a)
    (data sense : Bytes) : (m.fill w data sense).octet a = m.octet a := by
  refine octet_fill_of_not ?_ ?_
  · rintro ⟨d, hd, hda, hda'⟩
    refine ha (.inl ⟨d, hd, hda, ?_⟩)
    unfold Range.stop
    omega
  · rintro ⟨q, hq, hqa, hqa'⟩
    refine ha (.inr ⟨q, hq, hqa, ?_⟩)
    unfold Range.stop
    omega

namespace Manager

/-- Parts of the host that the device is beside. -/
theorem execution_spares (hbeside : m.Beside s r.key view) (mode : AddressingMode)
    (block : Option Block) : view (m.execution mode r block s).world = view s.world := by
  have hacq := acquisition_spares hbeside
  have htrip : ∀ {w : Windows Range} {handle : Handle},
      (m.acquisition r.key s.registry s.world).outcome = .ok handle →
        view (m.journey r block w handle s).world = view s.world := by
    intro w handle hd
    refine (trip_spares ?_ ?_ ..).trans hacq
    · exact fun octets => hbeside _ (.writing hd octets)
    · exact fun count => hbeside _ (.reading hd count)
  have h := m.execution_way mode r block s
  generalize m.execution mode r block s = x at h ⊢
  cases h with
  | rejected => rfl
  | unavailable => exact hacq
  | crashed hw hd | settled hw hd => exact htrip hd

/-- The handles of other devices. -/
theorem find?_execution (m : Manager σ) (mode : AddressingMode) (block : Option Block)
    (s : State σ) {key : DeviceKey} (hne : r.key ≠ key) :
    (m.execution mode r block s).registry.find? key = s.registry.find? key := by
  have hacq : (m.acquisition r.key s.registry s.world).registry.find? key =
      s.registry.find? key :=
    Attempt.find?_of_ne (m := m) (a := ⟨r.key, s.registry, s.world⟩) hne
  have h := m.execution_way mode r block s
  generalize m.execution mode r block s = x at h ⊢
  cases h with
  | rejected => rfl
  | unavailable | crashed | settled => exact hacq

/-- The octets outside the windows. -/
theorem octet_execution {a : Nat}
    (ha : ∀ w, r.windows s.memory mode = .ok w → ¬ w.Contains a) :
    (m.execution mode r none s).memory.octet a = s.memory.octet a := by
  have htrip : ∀ {w : Windows Range} {handle : Handle}, r.windows s.memory mode = .ok w →
      (m.journey r none w handle s).memory.octet a = s.memory.octet a := by
    intro w handle hw
    rcases m.memory_trip handle.channel r w s.memory
      (m.acquisition r.key s.registry s.world).world with h | ⟨data, sense, h⟩
    · exact congrArg (Memory.octet · a) h
    · refine (congrArg (Memory.octet · a) h).trans ?_
      exact Memory.octet_fill_of_not_contains (ha w hw) data sense
  have h := m.execution_way mode r none s
  generalize m.execution mode r none s = x at h ⊢
  cases h with
  | rejected | unavailable => rfl
  | crashed hw | settled hw => exact htrip hw

theorem offered_acquisition (m : Manager σ) (key : DeviceKey) (g : Registry) (world : σ)
    (channel : Nat) :
    (m.acquisition key g world).effects.filterMap (Effect.offered channel) = [] := by
  unfold acquisition
  split
  · rfl
  · split
    · rfl
    · split <;> rfl

theorem offered_trip {channel c : Nat} (hne : channel ≠ c) (m : Manager σ) (r : Request)
    (w : Windows Range) (memory : Memory) (world : σ) :
    (m.trip channel r w memory world).effects.filterMap (Effect.offered c) = [] := by
  rcases m.effects_trip channel r w memory world with h | h
  · rw [h]
    rfl
  · rw [h]
    rcases m.host.effects_converse channel (r.outbound memory w) r.expectedReply world with
      ⟨-, he⟩ | ⟨-, he⟩
    · rw [he]
      simp [Effect.offered, hne]
    · rw [he]
      simp [Effect.offered, hne]

/-- Channels that the device was not acquired with. -/
theorem offered_execution (m : Manager σ) (mode : AddressingMode) (r : Request)
    (block : Option Block) (s : State σ) (channel : Nat) :
    (m.execution mode r block s).effects.filterMap (Effect.offered channel) = [] ∨
      ∃ handle, (m.acquisition r.key s.registry s.world).outcome = .ok handle ∧
        handle.channel = channel := by
  have hacq := m.offered_acquisition r.key s.registry s.world channel
  have h := m.execution_way mode r block s
  generalize m.execution mode r block s = x at h ⊢
  cases h with
  | rejected => exact .inl rfl
  | unavailable => exact .inl hacq
  | @crashed w handle _ hw hd | @settled w handle _ hw hd =>
    by_cases hc : handle.channel = channel
    · exact .inr ⟨handle, hd, hc⟩
    · refine .inl ?_
      rw [List.filterMap_append, hacq, List.nil_append]
      exact offered_trip hc ..

end Manager

end

end AspiManager
