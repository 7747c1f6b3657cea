import AspiManager.Proofs.Identification
import AspiManager.Proofs.Logging
import AspiManager.Proofs.Running

/-!
# The program in both modes

From the command line on, the mode in which the program places its block makes no difference to what
it prints, to what it does to the device, and to how it ends; and what it prints is the adapter and
the answer of the device, octet by octet (`Probe.run_in_both_modes`).

The log takes part in this as far as its records go, and they may go to the standard output too. The
dump of a request shows the pointer to the caller's data buffer, which is another one in each mode.
Everything else in the records is the same, and so is the whole of an output to which no such dump
goes (`Probe.Outcome.Alike`). The times at which records are written are not part of them.
-/

namespace AspiManager

/-! ## Records -/

namespace Log

/-- The name under which the pointer to the data buffer is dumped. -/
def pointerField : String := "buf_ptr"

/-- The event without the pointer to the data buffer. -/
def Event.withoutPointer (e : Event) : Event :=
  { e with fields := e.fields.filter (·.1 ≠ pointerField) }

/-- The record without the pointer to the data buffer. -/
def Record.withoutPointer (r : Record) : Record :=
  { r with fields := r.fields.filter (·.1 ≠ pointerField) }

/-- Dumps of requests go to an output. -/
def Logger.DumpsTo (l : Logger) (output : Output) : Prop :=
  l.settings.output = output ∧ l.filter.allows Source.dump.target .trace = true

variable {l : Logger} {es es' : List Event}

theorem recordOf?_withoutPointer (l : Logger) (e : Event) :
    l.recordOf? none e.withoutPointer = (l.recordOf? none e).map Record.withoutPointer := by
  unfold Logger.recordOf? Event.withoutPointer
  dsimp only
  split <;> rfl

/-- Events that are the same without the pointer leave records that are the same without it. -/
theorem records_withoutPointer (h : es.map Event.withoutPointer = es'.map Event.withoutPointer) :
    (l.records none es).map Record.withoutPointer =
      (l.records none es').map Record.withoutPointer := by
  have hmap : ∀ es : List Event, (l.records none es).map Record.withoutPointer =
      l.records none (es.map Event.withoutPointer) := by
    intro es
    simp only [Logger.records, Option.filter_none, List.map_filterMap, List.filterMap_map]
    exact List.filterMap_congr fun e _ => (recordOf?_withoutPointer l e).symm
  rw [hmap, hmap, h]

/-- A request whose buffers are somewhere else is dumped alike without the pointer. -/
theorem Dump.request_moved (r : Request) (p q : FarPtr) (window : Option AspiManager.Range) :
    (Dump.request { r with data := ⟨p, r.data.len⟩, sense := ⟨q, r.sense.len⟩ } window).map
        Event.withoutPointer = (Dump.request r window).map Event.withoutPointer := by
  have hdirection : ({ r with data := ⟨p, r.data.len⟩, sense := ⟨q, r.sense.len⟩ } :
      Request).direction = r.direction := rfl
  have hposting : ({ r with data := ⟨p, r.data.len⟩, sense := ⟨q, r.sense.len⟩ } :
      Request).posting = r.posting := rfl
  simp [Dump.request, Dump.event, Event.withoutPointer, Dump.requestFields, pointerField,
    hdirection, hposting]

/-- The dump of a request is at the most verbose level. -/
theorem Dump.trace_of_mem_request {r : Request} {window : Option AspiManager.Range} {e : Event}
    (h : e ∈ Dump.request r window) : e.source = .dump ∧ e.level = .trace := by
  have hcommand : e ∈ Dump.command r.cdb → e.source = .dump ∧ e.level = .trace := by
    unfold Dump.command
    split
    · rintro (_ | ⟨_, ⟨⟩⟩)
      exact ⟨rfl, rfl⟩
    · split
      · intro h
        obtain ⟨n, -, rfl⟩ := List.mem_map.mp h
        exact ⟨rfl, rfl⟩
      · nofun
  rcases List.mem_cons.mp h with rfl | h
  · exact ⟨rfl, rfl⟩
  · exact hcommand h

/-- A logger that does not let such dumps through leaves no records of them. -/
theorem records_request (h : ¬ l.filter.allows Source.dump.target .trace = true) (r : Request)
    (window : Option AspiManager.Range) :
    (Dump.request r window).filterMap (l.recordOf? none) = [] := by
  rw [List.filterMap_eq_nil_iff]
  intro e he
  obtain ⟨hsource, hlevel⟩ := Dump.trace_of_mem_request he
  unfold Logger.recordOf?
  rw [hsource, hlevel, if_neg h]

end Log

namespace Probe

variable {σ : Type} {o : Options} {adapter : Adapter} {logger : Log.Logger}
  {events events' : List Log.Event} {a : Answering σ} {answer : Bytes}

/-! ## What an answer shows -/

/-- The lines that show an answer. A page is shown by the digits of its number and of its octets:
the first four, and behind them as many as the third and the fourth say, but no more than were asked
for. With fewer than four octets all of them are shown. Standard data is shown by the names in it and
by the device type in the low five bits of its first octet. -/
inductive Shows (o : Options) (answer : Bytes) : List String → Prop
  | page {page : UInt8} {number digits : String} (hpage : o.page = some page)
    (hnumber : Hex.Spells number [page])
    (hdigits : Hex.Spells digits (if o.allocation.toNat < 4 then answer
      else answer.take (min (4 + 0x100 * (answer.octet 2).toNat + (answer.octet 3).toNat)
        o.allocation.toNat))) :
    Shows o answer [o.device.text ++ ": VPD page 0x" ++ number ++ ": " ++ digits]
  | standard {vendor product revision : String} (hpage : o.page = none)
    (hlength : 36 ≤ o.allocation.toNat) (hvendor : Scsi.Inquiry.Named (answer.part 8 8) vendor)
    (hproduct : Scsi.Inquiry.Named (answer.part 16 16) product)
    (hrevision : Scsi.Inquiry.Named (answer.part 32 4) revision) :
    Shows o answer [o.device.text ++ ": " ++ vendor ++ " " ++ product ++ " " ++ revision,
      "type: " ++ Scsi.Inquiry.typeNamed ((answer.octet 0).toNat % 32)]

/-- A page is shown as far as its length field says, and whole if it has no length field. -/
theorem pageOctets_eq (answer : Bytes) : pageOctets answer =
    if answer.length < 4 then answer
    else answer.take
      (min (4 + 0x100 * (answer.octet 2).toNat + (answer.octet 3).toNat) answer.length) := by
  unfold pageOctets
  split
  · exact List.take_of_length_le (by omega)
  · rw [Nat.min_def]
    split
    · rfl
    · rw [List.take_length]
      exact List.take_of_length_le (by omega)

theorem answerReport_page {page : UInt8} (hpage : o.page = some page) (answer : Bytes) :
    answerReport o answer = ⟨[pageLine o.device page answer], none⟩ := by
  unfold answerReport
  rw [hpage]

/-- The report on standard data, by the places of what is shown in it. -/
theorem answerReport_standard (hpage : o.page = none) (h : 36 ≤ answer.length) :
    answerReport o answer = ⟨[o.device.text ++ ": " ++ Scsi.Inquiry.name (answer.part 8 8) ++ " " ++
      Scsi.Inquiry.name (answer.part 16 16) ++ " " ++ Scsi.Inquiry.name (answer.part 32 4),
      "type: " ++ Scsi.Inquiry.typeNamed ((answer.octet 0).toNat % 32)], none⟩ := by
  unfold answerReport Scsi.Inquiry.parse? Scsi.Inquiry.minLength
  rw [hpage, if_neg (Nat.not_lt.mpr h)]
  dsimp only [standardLines]
  rw [Scsi.Inquiry.typeText_eq, Scsi.Inquiry.toNat_and_0x1F]
  rfl

theorem answerReport_short (hpage : o.page = none) (h : ¬ 36 ≤ answer.length) :
    (answerReport o answer).failure = some (.tooShort answer.length) := by
  unfold answerReport Scsi.Inquiry.parse? Scsi.Inquiry.minLength
  rw [hpage, if_pos (Nat.lt_of_not_le h)]

/-- An answer is of use if a page was asked for, or if it has room for standard data. -/
theorem answerReport_failure_eq_none_iff (ha : answer.length = o.allocation.toNat) :
    (answerReport o answer).failure = none ↔ o.page.isSome ∨ 36 ≤ o.allocation.toNat := by
  cases hpage : o.page with
  | some page => simp [answerReport_page hpage]
  | none =>
    by_cases h : 36 ≤ answer.length
    · simp [answerReport_standard hpage h, ← ha, h]
    · simp [answerReport_short hpage h, ← ha, h]

/-- The report on an answer of use has the lines that show it. -/
theorem shows_iff (ha : answer.length = o.allocation.toNat)
    (hu : o.page.isSome ∨ 36 ≤ o.allocation.toNat) {shown : List String} :
    Shows o answer shown ↔ shown = (answerReport o answer).lines := by
  cases hpage : o.page with
  | some page =>
    rw [answerReport_page hpage]
    unfold pageLine
    rw [pageOctets_eq, ha]
    constructor
    · rintro (⟨hpage', hnumber, hdigits⟩ | ⟨hpage', -⟩)
      · cases hpage.symm.trans hpage'
        rw [Hex.padded_two_eq_iff.mpr hnumber, Hex.encode_eq_iff.mpr hdigits]
      · cases hpage.symm.trans hpage'
    · rintro rfl
      exact .page hpage (Hex.padded_two_eq_iff.mp rfl) (Hex.encode_eq_iff.mp rfl)
  | none =>
    have hlength : 36 ≤ o.allocation.toNat := hu.resolve_left (by simp [hpage])
    rw [answerReport_standard hpage (ha ▸ hlength)]
    constructor
    · rintro (⟨hpage', -⟩ | ⟨-, -, hvendor, hproduct, hrevision⟩)
      · cases hpage.symm.trans hpage'
      · rw [Scsi.Inquiry.name_eq_iff.mpr hvendor, Scsi.Inquiry.name_eq_iff.mpr hproduct,
          Scsi.Inquiry.name_eq_iff.mpr hrevision]
    · rintro rfl
      exact .standard hpage hlength (Scsi.Inquiry.name_eq_iff.mp rfl)
        (Scsi.Inquiry.name_eq_iff.mp rfl) (Scsi.Inquiry.name_eq_iff.mp rfl)

/-- A run succeeds exactly if its INQUIRY is answered and the answer is of use. -/
theorem left_failure_eq_none_iff : (a.left adapter o logger events).failure = none ↔
    ∃ answer, a.outcome = .ok (.ok answer) ∧ (answerReport o answer).failure = none := by
  rcases ha : a.outcome with f | st | answer
  · simp [left_of_fault ha]
  · simp [left_of_status ha]
  · simp [left_of_answer ha]

/-! ## Two runs -/

/-- Two runs that show the same, do the same to the device and end the same. The records of each
output are the same but for the pointer to the data buffer, and wholly the same if no dumps of
requests go there. -/
structure Outcome.Alike (x y : Outcome σ) : Prop where
  lines : x.lines = y.lines
  failure : x.failure = y.failure
  effects : x.effects = y.effects
  world : x.world = y.world
  logger : x.logger = y.logger
  records : ∀ output, (x.records output).map Log.Record.withoutPointer =
    (y.records output).map Log.Record.withoutPointer
  records_of_not : ∀ output, (∀ logger, x.logger = some logger → ¬ logger.DumpsTo output) →
    x.records output = y.records output

theorem Outcome.Alike.refl (x : Outcome σ) : x.Alike x :=
  ⟨rfl, rfl, rfl, rfl, rfl, fun _ => rfl, fun _ _ => rfl⟩

theorem header_draft (o : Options) (p q : FarPtr) :
    (draft o p).header = { (draft o q).header with dataPtr := p.raw } := by
  simp only [draft, Srb.Draft.data, Srb.Draft.flags, Srb.Draft.command, Srb.Draft.senseLength]

/-- The requests of two layouts only differ in where their buffers are. -/
theorem request_eq (o : Options) (l l' : Layout) : ∃ p q, request o l = { request o l' with
    data := ⟨p, (request o l').data.len⟩, sense := ⟨q, (request o l').sense.len⟩ } := by
  refine ⟨.ofRaw l.data.raw, (draft o l.data).header.sensePtr l.block, ?_⟩
  unfold request
  rw [header_draft o l.data l'.data]
  rfl

/-- The dumps of a request in two layouts are the same without the pointer. -/
theorem request_withoutPointer (o : Options) (l l' : Layout) (window : Option AspiManager.Range) :
    (Log.Dump.request (request o l) window).map Log.Event.withoutPointer =
      (Log.Dump.request (request o l') window).map Log.Event.withoutPointer := by
  obtain ⟨p, q, h⟩ := request_eq o l l'
  rw [h, Log.Dump.request_moved]

theorem left_mode (a : Answering σ) (adapter : Adapter) (o : Options) (logger : Log.Logger)
    (events : List Log.Event) (mode : AddressingMode) :
    a.left adapter { o with mode := mode } logger events = a.left adapter o logger events := by
  have hreport : ∀ out, finalReport adapter { o with mode := mode } out = finalReport adapter o out
    | .ok _ => rfl
    | .error _ => rfl
  unfold Answering.left
  simp only [hreport]

/-- What a probe reports is the same in both modes but for the dump of its request. -/
theorem reported_mode (s : Surroundings σ) (c : Config) (o : Options) :
    ∃ es, ∀ mode, ∃ l, reported s c { o with mode := mode } =
      readyEvent :: (Log.Dump.request (request o l) (windows o).data ++ es) := by
  obtain ⟨es, hes⟩ := inquire_reports (manager s.host c) o s.world
  refine ⟨es, fun mode => ?_⟩
  obtain ⟨l, hl⟩ := hes mode s.start rfl rfl rfl
  refine ⟨l, ?_⟩
  unfold reported
  rw [hl]
  simp [Surroundings.start]

/-- What a logger makes of such reports. -/
theorem records_mode (logger : Log.Logger) (o : Options) (l l' : Layout)
    (window : Option AspiManager.Range) (e : Log.Event) (es : List Log.Event) :
    let records := fun l => logger.records none (e :: (Log.Dump.request (request o l) window ++ es))
    (records l).map Log.Record.withoutPointer = (records l').map Log.Record.withoutPointer ∧
      (¬ logger.filter.allows Log.Source.dump.target .trace = true → records l = records l') := by
  intro records
  refine ⟨Log.records_withoutPointer ?_, fun h => ?_⟩
  · simp only [List.map_cons, List.map_append, request_withoutPointer o l l' window]
  · have hnone := fun l => Log.records_request h (request o l) window
    simp only [records, Log.Logger.records, Option.filter_none, List.filterMap_cons,
      List.filterMap_append, hnone]

theorem records_left (a : Answering σ) (output : Log.Output) :
    (a.left adapter o logger events).records output =
      if logger.settings.output = output then logger.records none events else [] := by
  unfold Answering.left
  cases a.outcome <;> rfl

theorem logger_left (a : Answering σ) :
    (a.left adapter o logger events).logger = some logger := by
  unfold Answering.left
  cases a.outcome <;> rfl

/-- What is left of two probes whose reports a logger cannot tell apart but by the pointer. -/
theorem left_alike (a : Answering σ)
    (h : (logger.records none events).map Log.Record.withoutPointer =
      (logger.records none events').map Log.Record.withoutPointer)
    (h' : ¬ logger.filter.allows Log.Source.dump.target .trace = true →
      logger.records none events = logger.records none events') :
    (a.left adapter o logger events).Alike (a.left adapter o logger events') where
  lines := by unfold Answering.left; cases a.outcome <;> rfl
  failure := by unfold Answering.left; cases a.outcome <;> rfl
  effects := by unfold Answering.left; cases a.outcome <;> rfl
  world := by unfold Answering.left; cases a.outcome <;> rfl
  logger := by rw [logger_left, logger_left]
  records output := by
    rw [records_left, records_left]
    split
    · exact h
    · rfl
  records_of_not output hnot := by
    rw [records_left, records_left]
    split
    · rename_i houtput
      exact h' fun hallows => hnot logger (logger_left a) ⟨houtput, hallows⟩
    · rfl

/-- Runs that only differ in the mode are alike. -/
theorem runProgram_alike (s : Surroundings σ) (o : Options) {mode mode' : AddressingMode}
    {arguments arguments' : List String}
    (h : Invocation.parse arguments = .ok (.probe { o with mode := mode }))
    (h' : Invocation.parse arguments' = .ok (.probe { o with mode := mode' })) :
    (runProgram s arguments).Alike (runProgram s arguments') := by
  rw [runProgram_probe s h, runProgram_probe s h']
  simp only [runOptions]
  cases Log.Logger.setUp o.logger (s.text? o.logger) with
  | error e => exact .refl _
  | ok logger =>
    dsimp only
    cases readConfig s o.config with
    | none => exact .refl _
    | some c =>
      -- The mode does not occur in what an INQUIRY comes to.
      have hsame : ∀ mode, answering (manager s.host c) { o with mode := mode } s.world =
          answering (manager s.host c) o s.world := fun _ => rfl
      obtain ⟨es, hes⟩ := reported_mode s c o
      obtain ⟨l, hl⟩ := hes mode
      obtain ⟨l', hl'⟩ := hes mode'
      obtain ⟨hrecords, hrecords'⟩ := records_mode logger o l l' (windows o).data readyEvent es
      dsimp only
      rw [probe_eq, probe_eq, hsame, hsame, left_mode, left_mode, hl, hl']
      exact left_alike _ hrecords hrecords'

/-- The mode in which the caller holds its pointers makes no difference to what is printed, what is
done to the device, and how the program ends; in the log, on the standard output or elsewhere, only
the dump of the request shows it. With a logger and a configuration, the program succeeds exactly if
the device gives an answer that is of use, and then it shows the adapter and the answer. -/
theorem run_in_both_modes (s : Surroundings σ) (o : Options)
    (line : AddressingMode → List String)
    (hl : ∀ mode, Invocation.parse (line mode) = .ok (.probe { o with mode := mode })) :
    let out := fun mode => runProgram s (line mode)
    (out .realMode).Alike (out .protectedMode) ∧
    ∀ logger c, Log.Logger.setUp o.logger (s.text? o.logger) = .ok logger →
      readConfig s o.config = some c → ∀ mode, (out mode).logger = some logger ∧
        ((out mode).failure = none ↔
          ∃ answer, Answers s.host c o s.world answer ∧ (o.page.isSome ∨ 36 ≤ o.allocation.toNat)) ∧
        ∀ answer, Answers s.host c o s.world answer →
          (o.page.isSome ∨ 36 ≤ o.allocation.toNat) →
            ∃ shown, (out mode).lines = adapterShown c.adapter :: shown ∧
              ∀ other, Shows o answer other ↔ other = shown := by
  intro out
  refine ⟨runProgram_alike s o (hl .realMode) (hl .protectedMode), ?_⟩
  intro logger c hlogger hc mode
  have hrun := runProgram_eq (hl mode) hlogger hc
  rw [left_mode] at hrun
  change out mode = (answering (manager s.host c) o s.world).left c.adapter o logger _ at hrun
  rw [hrun]
  refine ⟨logger_left _, ?_, fun answer ha hu => ?_⟩
  · rw [left_failure_eq_none_iff]
    refine exists_congr fun answer => ?_
    rw [← answers_iff]
    exact and_congr_right fun ha => answerReport_failure_eq_none_iff (length_of_answers ha)
  · exact ⟨_, (left_of_answer (answers_iff.mp ha)).1, fun _ => shows_iff (length_of_answers ha) hu⟩

/-- The standard data of a drive. -/
def cdromData : Bytes :=
  [0x05, 0x80, 0x02, 0x02, 0x1F, 0, 0, 0] ++ "LINUX   ".toList.map (UInt8.ofNat ·.toNat) ++
    "VIRTUAL CDROM   ".toList.map (UInt8.ofNat ·.toNat) ++
    "1.00".toList.map (UInt8.ofNat ·.toNat)

/-- The answer of this drive is shown by the names and the type in it. -/
theorem shows_cdromData : Shows (driveOptions .realMode) cdromData
    ["c0t2d0: LINUX VIRTUAL CDROM 1.00", "type: CD/DVD"] := by
  have hvendor : Scsi.Inquiry.Named (cdromData.part 8 8) "LINUX" :=
    Scsi.Inquiry.name_eq_iff.mp (by decide +kernel)
  have hproduct : Scsi.Inquiry.Named (cdromData.part 16 16) "VIRTUAL CDROM" :=
    Scsi.Inquiry.name_eq_iff.mp (by decide +kernel)
  have hrevision : Scsi.Inquiry.Named (cdromData.part 32 4) "1.00" :=
    Scsi.Inquiry.name_eq_iff.mp (by decide +kernel)
  exact .standard rfl (by decide) hvendor hproduct hrevision

/-- A drive that gives standard data is shown in both modes, and a logger that records no dumps
records the same. -/
theorem cdrom_in_both_modes :
    (∀ mode, Invocation.parse (driveLine mode) =
      .ok (.probe { driveOptions .realMode with mode := mode })) ∧
    let out := fun mode => runProgram (oneDrive (Bytes.zeros 36 ++ cdromData)) (driveLine mode)
    (out .realMode).effects = (out .protectedMode).effects ∧
      (∀ output, (out .realMode).records output = (out .protectedMode).records output) ∧
      ∀ mode, (out mode).failure = none ∧ (out mode).lines =
        ["adapter: ASPI for Linux / sg host (scsi id 7, SS_COMP)",
          "c0t2d0: LINUX VIRTUAL CDROM 1.00", "type: CD/DVD"] := by
  have hl : ∀ mode, Invocation.parse (driveLine mode) =
      .ok (.probe { driveOptions .realMode with mode := mode }) := fun mode => parse_driveLine mode
  obtain ⟨halike, hrun⟩ := run_in_both_modes (oneDrive (Bytes.zeros 36 ++ cdromData))
    (driveOptions .realMode) driveLine hl
  have hrun := hrun driveLogger driveConfig (setUp_oneDrive _) (readConfig_oneDrive _)
  refine ⟨hl, halike.effects, fun output => halike.records_of_not output ?_, fun mode => ?_⟩
  · rintro logger hlogger ⟨-, hallows⟩
    cases (hrun .realMode).1.symm.trans hlogger
    exact absurd hallows (by decide +kernel)
  · obtain ⟨-, hsuccess, hshown⟩ := hrun mode
    have ha : Answers (oneDrive (Bytes.zeros 36 ++ cdromData)).host driveConfig
        (driveOptions .realMode) () cdromData :=
      ⟨_, replies_oneDrive _ .realMode, by decide +kernel, by decide +kernel⟩
    obtain ⟨shown, hlines, hiff⟩ := hshown cdromData ha (.inr (by decide))
    refine ⟨hsuccess.mpr ⟨cdromData, ha, .inr (by decide)⟩, ?_⟩
    rw [hlines, ← (hiff _).mp shows_cdromData]
    decide +kernel

end Probe

end AspiManager
