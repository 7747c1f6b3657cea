import AspiManager.Proofs.Running

/-!
# The diagnosis of a device

A device says in the sense area of its reply why a command failed. A reply with a result other than
zero is not copied to the caller, so after a failure the sense area of the block is as the program
has laid it out, and the line with the sense data is never shown
(`Probe.failed_reply_undiagnosed`, and of all probes `Probe.senseLine_notMem_lines`).
-/

namespace AspiManager

namespace Probe

variable {σ : Type}

/-! ## The lines of a run -/

/-- The line with which sense data would be shown. -/
def senseLine (sense : Scsi.Sense) : String := "sense: " ++ sense.text

/-- A line that begins otherwise than the line with the sense data. -/
def Plain (line : String) : Prop := line.toList.head? ≠ some 's'

theorem head?_append {front : String} {ch : Char} (h : front.toList.head? = some ch)
    (rest : String) : (front ++ rest).toList.head? = some ch := by
  rw [String.toList_append, List.head?_append, h, Option.some_or]

theorem not_plain_senseLine (sense : Scsi.Sense) : ¬ Plain (senseLine sense) :=
  not_not.mpr (head?_append (by decide) _)

theorem Plain.append {front : String} (ch : Char) (h : front.toList.head? = some ch)
    (hch : ch ≠ 's') (rest : String) : Plain (front ++ rest) := by
  unfold Plain
  rw [head?_append h]
  exact fun he => hch (Option.some.inj he)

theorem plain_adapterLine (q : Srb.AdapterInquiry) (st : Status) : Plain (adapterLine q st) := by
  unfold adapterLine
  simp only [String.append_assoc]
  exact .append 'a' (by decide) (by decide) _

/-- A line that begins with a device begins with the letter of its adapter. -/
theorem plain_key (key : DeviceKey) (rest : String) : Plain (key.text ++ rest) := by
  unfold DeviceKey.text
  simp only [String.append_assoc]
  exact .append 'c' (by decide) (by decide) _

theorem plain_answerReport (o : Options) (answer : Bytes) :
    ∀ line ∈ (answerReport o answer).lines, Plain line := by
  unfold answerReport
  split
  · intro line hm
    obtain rfl := List.mem_singleton.mp hm
    unfold pageLine
    simp only [String.append_assoc]
    exact plain_key _ _
  · split
    · intro line hm
      simp only [standardLines, List.mem_cons, List.not_mem_nil, or_false] at hm
      rcases hm with rfl | rfl
      · simp only [String.append_assoc]
        exact plain_key _ _
      · exact .append 't' (by decide) (by decide) _
    · nofun

theorem plain_left (a : Answering σ) (adapter : Adapter) (o : Options) (logger : Log.Logger)
    (events : List Log.Event) : ∀ line ∈ (a.left adapter o logger events).lines, Plain line := by
  intro line hm
  rcases ha : a.outcome with f | st | answer
  · rw [(left_of_fault ha).1] at hm
    cases hm
  · rw [(left_of_status ha).1, List.mem_singleton] at hm
    exact hm ▸ plain_adapterLine _ _
  · rw [(left_of_answer ha).1] at hm
    rcases List.mem_cons.mp hm with rfl | hm
    · exact plain_adapterLine _ _
    · exact plain_answerReport o answer line hm

theorem plain_runOptions (s : Surroundings σ) (o : Options) :
    ∀ line ∈ (runOptions s o).lines, Plain line := by
  unfold runOptions
  split
  · nofun
  · rename_i logger _
    split
    · nofun
    · rename_i c _
      rw [probe_eq]
      exact plain_left _ _ _ _ _

/-- No probe shows sense data. -/
theorem senseLine_notMem_lines (s : Surroundings σ) (o : Options) (sense : Scsi.Sense) :
    senseLine sense ∉ (runOptions s o).lines := fun hm =>
  not_plain_senseLine sense (plain_runOptions s o _ hm)

/-! ## Failures -/

/-- When a device gives a whole reply with a result other than zero, the program shows the adapter
and fails. Whatever the sense area of the reply holds, no sense data is shown. -/
theorem failed_reply_undiagnosed {s : Surroundings σ} {arguments : List String} {o : Options}
    {logger : Log.Logger} {c : Config} {reply : Bytes}
    (hl : Invocation.parse arguments = .ok (.probe o))
    (hlogger : Log.Logger.setUp o.logger (s.text? o.logger) = .ok logger)
    (hc : readConfig s o.config = some c) (hr : Replies s.host c o s.world reply)
    (hresult : reply.int32 12 ≠ 0) :
    (runProgram s arguments).lines = [adapterShown c.adapter] ∧
      (runProgram s arguments).failure = some (.probe (.status o.device .failed)) ∧
      ∀ sense, senseLine sense ∉ (runProgram s arguments).lines := by
  have ha := (answering_of_replies hr).trans (congrArg Except.ok (if_neg hresult))
  have hrun := runProgram_eq hl hlogger hc
  refine ⟨?_, ?_, runProgram_probe s hl ▸ senseLine_notMem_lines s o⟩
  · rw [hrun, (left_of_status ha).1]
  · rw [hrun, (left_of_status ha).2]

/-- A reply with the result 5, and with sense data about a medium that may have changed. -/
def unitAttention : Bytes :=
  Bytes.zeros 12 ++ [5, 0, 0, 0] ++ Bytes.zeros 4 ++
    [0x70, 0, 0x06, 0, 0, 0, 0, 0x08, 0, 0, 0, 0, 0x28, 0, 0, 0] ++ Bytes.zeros 36

/-- The sense data of this reply. -/
def mediumChanged : Scsi.Sense where
  valid := false
  responseCode := 0x70
  filemark := false
  endOfMedium := false
  wrongLength := false
  key := 0x06
  information := 0
  additionalLength := 0x08
  commandSpecific := 0
  code := 0x28
  qualifier := 0

theorem replies_unitAttention (mode : AddressingMode) :
    Replies (oneDrive unitAttention).host driveConfig (driveOptions mode) () unitAttention :=
  replies_oneDrive unitAttention mode

/-- A drive that reports a unit attention to the program. -/
theorem unit_attention_undiagnosed :
    unitAttention.int32 12 = 5 ∧
      (runProgram (oneDrive unitAttention) (driveLine .realMode)).lines =
        ["adapter: ASPI for Linux / sg host (scsi id 7, SS_COMP)"] ∧
      (runProgram (oneDrive unitAttention) (driveLine .realMode)).failure =
        some (.probe (.status ⟨0, 2, 0⟩ .failed)) := by
  have h5 : unitAttention.int32 12 = 5 := by decide +kernel
  obtain ⟨hlines, hfailure, -⟩ := failed_reply_undiagnosed (parse_driveLine .realMode)
    (setUp_oneDrive _) (readConfig_oneDrive _) (replies_unitAttention .realMode)
    (by rw [h5]; decide)
  exact ⟨h5, hlines.trans (by decide +kernel), hfailure⟩

/-- The sense area of the reply holds fixed-format sense data, for which there is a line to show, and
the program does not show it. -/
theorem medium_change_unshown :
    Invocation.parse (driveLine .realMode) = .ok (.probe (driveOptions .realMode)) ∧
      Log.Logger.setUp (driveOptions .realMode).logger
        ((oneDrive unitAttention).text? (driveOptions .realMode).logger) = .ok driveLogger ∧
      readConfig (oneDrive unitAttention) (driveOptions .realMode).config = some driveConfig ∧
      Replies (oneDrive unitAttention).host driveConfig (driveOptions .realMode) () unitAttention ∧
      unitAttention.int32 12 ≠ 0 ∧
      Scsi.Sense.parse (Sg.Header.ofOctets unitAttention).sense.toList = .ok mediumChanged ∧
      mediumChanged.responseCode = 0x70 ∧ 6 ≤ mediumChanged.additionalLength ∧
      (failedReport (driveOptions .realMode) .failed
        (Sg.Header.ofOctets unitAttention).sense.toList).lines = [senseLine mediumChanged] ∧
      senseLine mediumChanged ∉
        (runProgram (oneDrive unitAttention) (driveLine .realMode)).lines := by
  have hparsed : Scsi.Sense.parse (Sg.Header.ofOctets unitAttention).sense.toList =
      .ok mediumChanged := eq_ok_of_toOption (by decide +kernel)
  refine ⟨parse_driveLine _, setUp_oneDrive _, readConfig_oneDrive _, replies_unitAttention _,
    by decide +kernel, hparsed, rfl, by decide, ?_, ?_⟩
  · unfold failedReport
    rw [hparsed]
    rfl
  · rw [runProgram_probe _ (parse_driveLine _)]
    exact senseLine_notMem_lines _ _ _

end Probe

end AspiManager
