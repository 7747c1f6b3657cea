import AspiManager.Config.Basic
import AspiManager.Manager.Dispatch
import AspiManager.Memory.Machine
import AspiManager.Session.Report
import AspiManager.Session.Step

/-!
# Playing a session

Steps are played in order on one state. A step that breaks down ends there and keeps what it has
done; the session goes on. Post routines play steps in turn, so calls nest: the depth is bounded by
how often routines can carry out their steps, which the steps themselves say (`Step.weight`).
-/

namespace AspiManager

namespace Session

/-- A registered post routine. -/
structure Routine where
  entry : Nat
  actions : List Step
  /-- How often it still carries out its steps. -/
  left : Nat

/-- The world of a session: the scripted devices, the routines, and what was seen. -/
structure Stage where
  devices : Devices := {}
  routines : Array Routine := #[]
  posts : Array PostReport := #[]
  /-- The channels of handles that were acquired by steps, in order of appearance. -/
  acquired : Array Nat := #[]

namespace Stage

/-- A step of the scripted devices. -/
def onDevices {α : Type} (f : Devices → α × Devices) (s : Stage) : α × Stage :=
  let (a, d) := f s.devices
  (a, { s with devices := d })

/-- The scripted devices as a host. -/
def host : Host Stage where
  openNode path := onDevices (Devices.openNode path)
  write channel octets := onDevices (Devices.write channel octets)
  read channel count := onDevices (Devices.read channel count)

end Stage

/-- A run of a session. -/
abbrev Play := Run Stage

def modifyStage (f : Stage → Stage) : Play Unit :=
  modify fun s => { s with world := f s.world }

/-- A fault cuts the run short. -/
def orFault {α : Type} (e : Except Fault α) : Play α := ExceptT.mk (pure e)

/-- Takes selectors one after the other; the outcome is that of the last. -/
def allocate (base len : Nat) : Nat → Outcome → Memory → Outcome × Memory
  | 0, last, m => (last, m)
  | n + 1, _, m =>
    match m.allocSelector base len with
    | .ok (s, m) => allocate base len n (.selector s) m
    | .error e => (.addressError e, m)

/-- The outcome of something that may fail for its address. -/
def orAddressError {α : Type} (f : α → Outcome) : Except AddressError α → Outcome
  | .ok a => f a
  | .error e => .addressError e

/-- Work on a memory, on a machine whose build is checked. -/
def MemoryStep.apply (m : Memory) : MemoryStep → Except Fault (Outcome × Memory)
  | .write base data => do let (n, m) ← Machine.write m base data; return (.count n, m)
  | .read base len => do return (.octets (← Machine.read m base len), m)
  | .linear base len ptr => .ok (orAddressError .range (Machine.linear m base len ptr), m)
  | .slice r => do return (.octets (← m.slice r), m)
  | .fill r v => do return (.nothing, ← m.replace r ((← m.slice r).map fun _ => v))
  | .pair a b => do
    match ← m.pair a b with
    | none => return (.overlap, m)
    | some (x, y) =>
      let m ← m.replaceOption a (x.map fun bs => bs.map fun _ => 0xAA)
      let m ← m.replaceOption b (y.map fun bs => bs.map fun _ => 0xBB)
      return (.lengths (x.map List.length) (y.map List.length), m)
  | .alloc base len count => .ok (allocate base len count .nothing m)
  | .free s => .ok (.nothing, m.freeSelector s)
  | .descriptor s => .ok (orAddressError .descriptor (m.descriptor s), m)
  | .resolve mode ptr len => do
    return (orAddressError .range (← Machine.resolve .checked m mode ptr len), m)
  | .postArgument mode srb range =>
    match m.postArgument mode srb range with
    | .ok (arg, m) => .ok (.argument arg, m)
    | .error e => .ok (.addressError e, m)
  | .release arg => .ok (.nothing, m.release arg)

/-- The octets of a block with some of them changed. -/
def patched (bs : Bytes) (changes : List (Nat × UInt8)) : Bytes :=
  changes.foldl (fun bs (i, b) => bs.set i b) bs

/-- The number under which a channel was first acquired. -/
def handleNumber (channel : Nat) : Play Nat := do
  let acquired := (← get).world.acquired
  match acquired.findIdx? (· == channel) with
  | some n => return n
  | none =>
    modifyStage fun s => { s with acquired := s.acquired.push channel }
    return acquired.size

/-- Plays a step with a manager. -/
def Step.play (m : Manager Stage) : Step → Play Outcome
  | .memory step => do
    let (outcome, after) ← orFault (step.apply (← Run.memory))
    Run.setMemory after
    return outcome
  | .place base block changes => do
    let (n, after) := (← Run.memory).write base (patched block.build changes)
    Run.setMemory after
    return .count n
  | .send mode srb => return .status (← m.send mode srb)
  | .submit mode r => return .submitted (← m.submit mode r)
  | .register entry actions times => do
    let number := (← get).world.routines.size
    modifyStage fun s => { s with routines := s.routines.push ⟨entry, actions, times⟩ }
    modify fun s => { s with routines := s.routines.register entry number }
    return .table (← get).routines
  | .notify mode r block => do
    match ← m.post mode r block with
    | .ok ran => return .posted ran
    | .error e => return .postError e
  | .push path step => do
    modifyStage fun s => { s with devices := s.devices.push path step }
    return .nothing
  | .openFail path e => do
    modifyStage fun s => { s with devices := s.devices.setFailure path e }
    return .nothing
  | .acquire key => do
    match ← m.acquire key with
    | .ok h => return .handle (← handleNumber h.channel) h
    | .error e => return .requestError e
  | .lookup key => return .path (m.directory key)
  | .info => return .info m.adapter (← get).registry

/-- What a post routine sees. -/
def observe (entry : Nat) (call : PostCall) (m : Memory) : PostReport :=
  let d := m.table.lookup call.srb.segment
  { entry := entry, srb := call.srb, descriptor := d, request := call.request
    block := d.map fun d => m.read (d.base + call.srb.offset.toNat) 26 }

/-- Calls a routine, whose steps are played by `play`. -/
def callRoutine (play : Step → Play Outcome) (number : Nat) (call : PostCall) : Play Unit := do
  let stage := (← get).world
  match stage.routines[number]? with
  | none => return ()
  | some r =>
    let index := stage.posts.size
    let report := observe r.entry call (← Run.memory)
    modifyStage fun s => { s with posts := s.posts.push report }
    if r.actions.isEmpty || r.left == 0 then return ()
    modifyStage fun s =>
      { s with routines := s.routines.setIfInBounds number { r with left := r.left - 1 } }
    let outcomes ← r.actions.mapM play
    modifyStage fun s =>
      { s with posts := s.posts.setIfInBounds index { report with actions := some outcomes } }

/-- The manager of a session, whose routines nest up to a depth. -/
def manager (directory : DeviceKey → Option String) (adapter : Adapter) : Nat → Manager Stage
  | 0 => ⟨Stage.host, directory, adapter, fun _ _ => throw .nesting⟩
  | depth + 1 => ⟨Stage.host, directory, adapter,
      callRoutine (Step.play (manager directory adapter depth))⟩

/-- A run of a step from a state: its outcome, and the state after it. -/
def outcomeOf (s : State Stage) (run : Play Outcome) : Outcome × State Stage :=
  match (run.run).run s with
  | (.ok outcome, s) => (outcome, s)
  | (.error _, s) => (.crashed, s)

/-- The messages among effects, with the paths of their channels, in order of paths. -/
def writesByPath (d : Devices) (effects : List Effect) : List (String × Bytes) :=
  let writes := effects.filterMap fun
    | .wrote channel octets => some (d.pathOf channel, octets)
    | _ => none
  writes.mergeSort fun a b => !decide (b.1 < a.1)

/-- A state in which nothing was seen yet. -/
def freshen (s : State Stage) : State Stage :=
  { s with events := #[], effects := #[], world := { s.world with posts := #[] } }

/-- What a step left behind between two states. -/
def report (before : Memory) (outcome : Outcome) (after : State Stage) : StepReport :=
  { outcome := outcome, memory := after.memory, registry := after.registry
    changes := changedRuns before after.memory
    posts := after.world.posts.toList
    writes := writesByPath after.world.devices after.effects.toList
    events := after.events.toList }

/-- The reports of steps in order. -/
def playAll (m : Manager Stage) (s : State Stage) : List Step → List StepReport
  | [] => []
  | step :: rest =>
    let (outcome, after) := outcomeOf (freshen s) (step.play m)
    report s.memory outcome after :: playAll m after rest

/-- Plays a session on a zeroed memory with scripted devices. -/
def run (directory : DeviceKey → Option String) (adapter : Adapter) (size : Nat)
    (devices : Devices) (steps : List Step) : List StepReport :=
  playAll (manager directory adapter (weightAll steps + 1))
    { memory := .zeroed size, world := { devices := devices } } steps

/-- The reports of work on a memory alone. -/
def playMemory (m : Memory) : List MemoryStep → List (Outcome × Memory × List (Nat × Bytes))
  | [] => []
  | step :: rest =>
    let (outcome, after) := match step.apply m with
      | .ok r => r
      | .error _ => (.crashed, m)
    (outcome, after, changedRuns m after) :: playMemory after rest

end Session

end AspiManager
