import AspiManager.Probe.Program
import AspiManager.Proofs.Attempts
import AspiManager.Proofs.Call
import AspiManager.Proofs.Probing

/-!
# What a run of the program comes to

A run that gets as far as the device leaves what its INQUIRY comes to, beside the log
(`Probe.runProgram_eq`). When a device gives a whole reply, the result in the reply decides what the
INQUIRY comes to (`Probe.answering_of_replies`), and without a whole reply there is no answer
(`Probe.answers_iff`).
-/

namespace AspiManager

variable {σ : Type}

/-- The conversation with a channel that takes the whole message and gives the whole reply. -/
theorem Host.converse_whole {h : Host σ} {channel count : Nat} {octets bs : Bytes} {w w₁ w₂ : σ}
    (hw : h.write channel octets w = (.done octets.length, w₁))
    (hr : h.read channel count w₁ = (.done (count, bs), w₂)) :
    h.converse channel octets count w =
      ⟨.ok (.ok (Bytes.fit count bs)), w₂, [.wrote channel octets, .asked channel count]⟩ := by
  unfold converse listen
  simp only [hw, hr, if_true]

namespace Probe

variable {h : Host σ} {c : Config} {o : Options} {w : σ} {reply answer : Bytes}

/-! ## Replies -/

/-- A device gives a reply: it is listed and its node opens, it takes the whole message, and it gives
all octets that it is asked for. -/
def Replies (h : Host σ) (c : Config) (o : Options) (w : σ) (reply : Bytes) : Prop :=
  ∃ path channel w₁ w₂ w₃ octets,
    c.devicePath o.device = some path ∧ h.openNode path w = (.ok channel, w₁) ∧
    h.write channel o.message w₁ = (.done o.message.length, w₂) ∧
    h.read channel (36 + o.allocation.toNat) w₂ = (.done (36 + o.allocation.toNat, octets), w₃) ∧
    Bytes.fit (36 + o.allocation.toNat) octets = reply

/-- A device gives an answer: the result in its reply is zero, and the answer is what follows the
header. -/
def Answers (h : Host σ) (c : Config) (o : Options) (w : σ) (answer : Bytes) : Prop :=
  ∃ reply, Replies h c o w reply ∧ reply.int32 12 = 0 ∧ reply.drop 36 = answer

theorem length_of_answers (ha : Answers h c o w answer) : answer.length = o.allocation.toNat := by
  obtain ⟨-, ⟨-, -, -, -, -, octets, -, -, -, -, rfl⟩, -, rfl⟩ := ha
  rw [List.length_drop, Bytes.length_fit, Nat.add_sub_cancel_left]

/-- The result in the reply decides what the INQUIRY comes to. -/
theorem answering_of_replies (hr : Replies h c o w reply) :
    (answering (manager h c) o w).outcome = .ok (judge (.ok reply)) := by
  obtain ⟨path, channel, w₁, w₂, w₃, octets, hpath, hopen, hwrite, hread, rfl⟩ := hr
  have hfind : ({} : Registry).find? o.device = none := rfl
  have hconverse := Host.converse_whole hwrite hread
  simp only [answering, Manager.acquisition, manager, hfind, hpath, hopen, hconverse]
  rfl

theorem judge_eq_ok_iff {given : Except TransferError Bytes} : judge given = .ok answer ↔
    ∃ raw, given = .ok raw ∧ raw.int32 12 = 0 ∧ raw.drop 36 = answer := by
  constructor
  · intro hj
    unfold judge at hj
    split at hj
    · cases hj
    · rename_i raw
      split at hj
      · rename_i hzero
        exact ⟨raw, rfl, hzero, Except.ok.inj hj⟩
      · cases hj
  · rintro ⟨raw, rfl, hzero, rfl⟩
    exact if_pos hzero

/-- An INQUIRY is answered exactly if the device gives the answer. -/
theorem answers_iff : Answers h c o w answer ↔
    (answering (manager h c) o w).outcome = .ok (.ok answer) := by
  constructor
  · rintro ⟨reply, hr, hzero, rfl⟩
    rw [answering_of_replies hr]
    exact congrArg Except.ok (if_pos hzero)
  · intro ha
    unfold answering at ha
    have hway := Attempt.way (manager h c) ⟨o.device, {}, w⟩
    unfold Attempt.result at hway
    generalize (manager h c).acquisition o.device {} w = q at ha hway
    cases hway with
    | hit hf => cases hf
    | unlisted => cases ha
    | shut => cases ha
    | @opened path channel w₁ hf hpath hopen =>
      change Except.map judge (h.converse ..).outcome = _ at ha
      cases hc : (h.converse channel o.message (36 + o.allocation.toNat) w₁).outcome with
      | error f =>
        rw [hc] at ha
        cases ha
      | ok given =>
        rw [hc] at ha
        obtain ⟨reply, rfl, hzero, hdrop⟩ := judge_eq_ok_iff.mp (Except.ok.inj ha)
        obtain ⟨w₂, octets, w₃, hwrite, hread, hreply⟩ := Host.answers_of_converse hc
        exact ⟨reply, ⟨path, channel, w₁, w₂, w₃, octets, hpath, hopen, hwrite, hread,
          hreply.symm⟩, hzero, hdrop⟩

/-! ## Runs -/

/-- What a run leaves when its INQUIRY comes to `a`. -/
def Answering.left (a : Answering σ) (adapter : Adapter) (o : Options) (logger : Log.Logger)
    (events : List Log.Event) : Outcome σ :=
  let left : Outcome σ :=
    { logger := some logger, events := events, effects := a.effects, world := a.world }
  match a.outcome with
  | .ok out => { left with
      lines := (finalReport adapter o out).lines
      failure := (finalReport adapter o out).failure.map ProgramError.probe }
  | .error f => { left with failure := some (.fault f) }

section Left

variable {a : Answering σ} {adapter : Adapter} {logger : Log.Logger} {events : List Log.Event}

/-- After an answer the report on it follows the line about the adapter. -/
theorem left_of_answer (ha : a.outcome = .ok (.ok answer)) :
    (a.left adapter o logger events).lines = adapterShown adapter :: (answerReport o answer).lines ∧
      (a.left adapter o logger events).failure =
        (answerReport o answer).failure.map ProgramError.probe := by
  unfold Answering.left
  rw [ha]
  exact ⟨rfl, rfl⟩

/-- After a status other than success there is nothing but the adapter to show. -/
theorem left_of_status {st : Status} (ha : a.outcome = .ok (.error st)) :
    (a.left adapter o logger events).lines = [adapterShown adapter] ∧
      (a.left adapter o logger events).failure = some (.probe (.status o.device st)) := by
  unfold Answering.left
  rw [ha]
  exact ⟨rfl, rfl⟩

theorem left_of_fault {f : Fault} (ha : a.outcome = .error f) :
    (a.left adapter o logger events).lines = [] ∧
      (a.left adapter o logger events).failure = some (.fault f) := by
  unfold Answering.left
  rw [ha]
  exact ⟨rfl, rfl⟩

end Left

/-- The state in which a probe begins. -/
def Surroundings.start (s : Surroundings σ) : State σ :=
  { memory := .zeroed memorySize, world := s.world }

/-- What a probe reports, in order. -/
def reported (s : Surroundings σ) (c : Config) (o : Options) : List Log.Event :=
  ((inquire (manager s.host c) o).exec s.start).2.events.toList

theorem probe_eq (s : Surroundings σ) (logger : Log.Logger) (c : Config) (o : Options) :
    probe s logger c o =
      (answering (manager s.host c) o s.world).left c.adapter o logger (reported s c o) := by
  obtain ⟨u, hrun, hworld, heffects⟩ := inquire_exec (manager s.host c) o (s := s.start) rfl rfl
  unfold reported
  rw [hrun]
  change ((inquire (manager s.host c) o).run).run _ = _ at hrun
  unfold Surroundings.start at hrun hworld heffects
  unfold probe Answering.left
  rw [hrun]
  have heff : u.effects.toList = (answering (manager s.host c) o s.world).effects := by
    rw [heffects]
    simp
  dsimp only at hworld ⊢
  rw [heff, hworld]
  cases (answering (manager s.host c) o s.world).outcome <;> rfl

theorem runProgram_probe {arguments : List String} (s : Surroundings σ)
    (hl : Invocation.parse arguments = .ok (.probe o)) :
    runProgram s arguments = runOptions s o := by
  unfold runProgram
  rw [hl]

/-- A run with a logger and a configuration leaves what its INQUIRY comes to. -/
theorem runProgram_eq {s : Surroundings σ} {arguments : List String} {logger : Log.Logger}
    (hl : Invocation.parse arguments = .ok (.probe o))
    (hlogger : Log.Logger.setUp o.logger (s.text? o.logger) = .ok logger)
    (hc : readConfig s o.config = some c) :
    runProgram s arguments =
      (answering (manager s.host c) o s.world).left c.adapter o logger (reported s c o) := by
  simp only [runProgram_probe s hl, runOptions, hlogger, hc, probe_eq]

/-! ## A machine with one drive -/

/-- Files with a configuration and the settings of a logger, and a node that always gives the same
reply. -/
def oneDrive (reply : Bytes) : Surroundings Unit where
  text? path :=
    if path = "config.yaml" then some "Devices:\n  c0t2d0: sg2\n"
    else if path = "logger.yaml" then some "logger:\n  level: info\n  output: stderr\n"
    else none
  host := .constant reply
  world := ()

/-- The configuration of the machine. -/
def driveConfig : Config :=
  { devices := [("c0t2d0", .plain "sg2")], resolved := [(⟨0, 2, 0⟩, "sg2")] }

/-- The logger of the machine. -/
def driveLogger : Log.Logger := ⟨{ level := "info", output := .stderr }, ⟨[⟨"", some .info⟩]⟩⟩

/-- The options with which the drive is probed. -/
def driveOptions (mode : AddressingMode) : Options :=
  { device := ⟨0, 2, 0⟩, config := "config.yaml", logger := "logger.yaml", mode := mode }

/-- A command line with these options. -/
def driveLine (mode : AddressingMode) : List String :=
  ["c0t2d0", "--mode", match mode with | .realMode => "real" | .protectedMode => "protected",
    "--config", "config.yaml", "--logger", "logger.yaml"]

theorem parse_driveLine (mode : AddressingMode) :
    Invocation.parse (driveLine mode) = .ok (.probe (driveOptions mode)) := by
  refine eq_ok_of_toOption ?_
  cases mode <;> decide +kernel

theorem readConfig_oneDrive (reply : Bytes) :
    readConfig (oneDrive reply) "config.yaml" = some driveConfig := by
  show (Config.ofText "Devices:\n  c0t2d0: sg2\n").toOption = some driveConfig
  decide +kernel

theorem setUp_oneDrive (reply : Bytes) :
    Log.Logger.setUp "logger.yaml" ((oneDrive reply).text? "logger.yaml") = .ok driveLogger := by
  show Log.Logger.setUp "logger.yaml" (some "logger:\n  level: info\n  output: stderr\n") = _
  refine eq_ok_of_toOption ?_
  decide +kernel

theorem replies_oneDrive (reply : Bytes) (mode : AddressingMode) :
    Replies (oneDrive reply).host driveConfig (driveOptions mode) () (Bytes.fit 72 reply) :=
  ⟨"sg2", 0, (), (), (), reply, rfl, rfl, rfl, rfl, rfl⟩

end Probe

end AspiManager
