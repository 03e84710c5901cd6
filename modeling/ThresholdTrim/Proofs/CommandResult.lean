import Mathlib
import ThresholdTrim.Command.Program
import ThresholdTrim.Proofs.DistinctDevices
import ThresholdTrim.Proofs.Files

/-!
# The result of a calibration

A run over many devices may be interrupted, and it may come to nothing, and in both cases it has
failed. Its outputs are written before that is found out (`Program.settle`), so whatever is found,
they are there. What the result is depends on the reports alone, and on whether the flag is up when
they have all come in (`Command.Decides`).

A failed run has its own exit code, and it keeps that code in any context that does not speak of the
configuration. Case does not matter there: a context that speaks of it in capitals takes the code of
a failed setup (`capitals_hide_interruption`). The messages of failed runs do not speak of it, as
they do without the letter g.
-/

namespace ThresholdTrim

open Command

/-! ## Outputs in their directory -/

namespace Program

section

variable {ε ε' σ α β : Type} {s s' : σ}

theorem run_bind_eq_ok {first : ExceptT ε (StateM σ) α} {next : α → ExceptT ε (StateM σ) β} {b : β}
    (h : (first >>= next).run s = (.ok b, s')) :
    ∃ a s₁, first.run s = (.ok a, s₁) ∧ (next a).run s₁ = (.ok b, s') := by
  rw [run_bind] at h
  split at h
  · rename_i a s₁ hfirst
    exact ⟨a, s₁, hfirst, h⟩
  · cases h

theorem run_adapt_eq_ok_iff {f : ε → ε'} {work : ExceptT ε (StateM σ) α} {a : α} :
    (ExceptT.adapt f work).run s = (.ok a, s') ↔ work.run s = (.ok a, s') := by
  change ((work.run s).1.mapError f, (work.run s).2) = (.ok a, s') ↔ _
  constructor
  · intro h
    obtain ⟨hanswer, rfl⟩ := Prod.mk.inj h
    exact Prod.ext (Check.eq_ok_of_mapError hanswer) rfl
  · intro h
    rw [h]
    rfl

end

variable {dir : String} {outcome : CalibrationOutcome} {files files' : Files}

theorem writeFile_eq_ok_iff {context path text : String} :
    (writeFile context path text).run files = (.ok (), files') ↔
      ∃ file, FilePath.parse path = .ok file ∧
        (Files.write file text).run files = (.ok (), files') := by
  rw [writeFile]
  refine run_adapt_eq_ok_iff.trans ?_
  rw [run_bind]
  cases FilePath.parse path with
  | error => exact ⟨nofun, fun ⟨_, h, _⟩ ↦ nomatch h⟩
  | ok file => exact ⟨fun h ↦ ⟨file, rfl, h⟩, fun ⟨_, hfile, h⟩ ↦ Except.ok.inj hfile ▸ h⟩

theorem exists_of_writeOutputs (h : (writeOutputs dir outcome).run files = (.ok (), files')) :
    ∃ files₁ files₂,
      (writeFile "create" (joinPath dir rowLogName) outcome.rowLog).run files₁ = (.ok (), files₂) ∧
      (writeFile "write" (joinPath dir documentName) outcome.document).run files₂ =
        (.ok (), files') := by
  obtain ⟨files₁, h⟩ : ∃ files₁, (writeFile "create" (joinPath dir rowLogName) outcome.rowLog >>=
      fun _ ↦ writeFile "write" (joinPath dir documentName) outcome.document).run files₁ =
        (.ok (), files') := by
    rw [writeOutputs] at h
    dsimp only at h
    split at h
    · obtain ⟨_, files₁, _, h⟩ := run_bind_eq_ok h
      exact ⟨files₁, h⟩
    · exact ⟨files, h⟩
  obtain ⟨_, files₂, hrowLog, hdocument⟩ := run_bind_eq_ok h
  exact ⟨files₁, files₂, hrowLog, hdocument⟩

theorem isFileName_rowLogName : IsFileName rowLogName := ⟨by decide, by decide, by decide⟩

theorem isFileName_documentName : IsFileName documentName := ⟨by decide, by decide, by decide⟩

/-- Where the path of a file leads ends in the name of the file. -/
theorem name_of_locate {name : String} {file : FilePath} {place : Place} (hname : IsFileName name)
    (hparse : FilePath.parse (joinPath dir name) = .ok file)
    (hlocate : files.locate file = .ok place) : place.names.head? = some name := by
  obtain rfl : FilePath.ofText (joinPath dir name) = file := by
    rw [FilePath.parse] at hparse
    split at hparse
    · cases hparse
    split at hparse
    · cases hparse
    split at hparse
    · cases hparse
    · exact Except.ok.inj hparse
  obtain ⟨steps, hsteps⟩ := exists_steps_joinPath hname
  rw [Files.locate, hsteps] at hlocate
  exact Files.names_of_follow hlocate

theorem textAt_run {path : String} {file : FilePath} (h : FilePath.parse path = .ok file) :
    ((Files.textAt path).run files).1 = files.read file := by
  rw [Files.textAt, h]
  rfl

/-- Outputs that were written are in their directory, one beside the other. -/
theorem textAt_of_writeOutputs (h : (writeOutputs dir outcome).run files = (.ok (), files')) :
    ((Files.textAt (joinPath dir rowLogName)).run files').1 = .ok outcome.rowLog ∧
      ((Files.textAt (joinPath dir documentName)).run files').1 = .ok outcome.document := by
  obtain ⟨files₁, files₂, hrowLog, hdocument⟩ := exists_of_writeOutputs h
  obtain ⟨rowLog, hrowLogPath, hrowLog⟩ := writeFile_eq_ok_iff.mp hrowLog
  obtain ⟨document, hdocumentPath, hdocument⟩ := writeFile_eq_ok_iff.mp hdocument
  rw [textAt_run hrowLogPath, textAt_run hdocumentPath]
  refine ⟨Files.read_of_write_other hdocument (Files.read_of_write hrowLog) ?_,
    Files.read_of_write hdocument⟩
  intro place hplace hsame
  have hnames : some rowLogName = some documentName :=
    (name_of_locate isFileName_rowLogName hrowLogPath hsame).symm.trans
      (name_of_locate isFileName_documentName hdocumentPath hplace)
  exact absurd hnames (by decide)

/-- Outputs that could be written are there, whatever is made of the run. -/
theorem settle_run (h : (writeOutputs dir outcome).run files = (.ok (), files')) :
    (settle dir outcome).run files = (outcome.result, files') := by
  rw [settle, run_bind, h]
  rfl

end Program

/-! ## Reports and what is said of them -/

namespace Command

/-- What is said of a device is what its context says. -/
structure Summarizes (summary : DeviceSummary) (report : DeviceReport Float) : Prop where
  key : summary.key = report.context.spec.key
  status : summary.statusText = match report.context.status with
    | .pending => "pending"
    | .resolved => "resolved"
    | .masked _ => "masked"
  cause : summary.causeText? = match report.context.status with
    | .masked error => some error.message
    | _ => none
  thresholdDac : summary.thresholdDac = report.context.registers.thresholdDac
  masked : summary.masked = report.context.registers.channelMask.count true

theorem summarizes_ofReport (report : DeviceReport Float) :
    Summarizes (.ofReport report) report := by
  refine ⟨rfl, rfl, rfl, rfl, ?_⟩
  rw [Context.registers, ChannelMask.flags, List.count_eq_countP, List.countP_map]
  exact List.countP_congr fun reason _ ↦ by cases reason <;> simp

variable {stopped : Bool} {total : Nat} {reports : List (DeviceReport Float)}
  {deliveries : List (Delivery Float)}

/-- Whether the flag was up and some device had no report. -/
def CutShort (stopped : Bool) (total : Nat) (reports : List (DeviceReport Float)) : Prop :=
  stopped = true ∧ reports.length < total

/-- Whether devices were tried and none of them was calibrated. -/
def NoneResolved (reports : List (DeviceReport Float)) : Prop :=
  reports ≠ [] ∧ ∀ report ∈ reports, report.context.status ≠ .resolved

theorem cutShort_iff : CutShort stopped total reports ↔
    (stopped && decide ((reports.map (·.context)).length < total)) = true := by
  rw [CutShort, Bool.and_eq_true, decide_eq_true_eq, List.length_map]

theorem noneResolved_iff : NoneResolved reports ↔ (!(reports.map (·.context)).isEmpty &&
    (reports.map (·.context)).all (!·.isResolved)) = true := by
  have hstatus : ∀ context : Context Float,
      (!context.isResolved) = true ↔ context.status ≠ .resolved := by
    intro context
    rw [Context.isResolved]
    cases context.status <;> simp
  rw [NoneResolved, Bool.and_eq_true, Bool.not_eq_true', List.isEmpty_eq_false_iff, ne_eq,
    ne_eq, List.map_eq_nil_iff, List.all_eq_true]
  exact and_congr_right fun _ ↦ by simp [hstatus]

theorem runError?_of_cutShort (h : CutShort stopped total reports) :
    runError? stopped total (reports.map (·.context)) =
      some (.interrupted reports.length total) := by
  rw [runError?, if_pos (cutShort_iff.mp h), List.length_map]

theorem runError?_of_noneResolved (hcut : ¬CutShort stopped total reports)
    (hnone : NoneResolved reports) :
    runError? stopped total (reports.map (·.context)) =
      some (.allDevicesFailed reports.length) := by
  rw [runError?, if_neg (cutShort_iff.not.mp hcut), if_pos (noneResolved_iff.mp hnone),
    List.length_map]

theorem runError?_eq_none (hcut : ¬CutShort stopped total reports) (hnone : ¬NoneResolved reports) :
    runError? stopped total (reports.map (·.context)) = none := by
  rw [runError?, if_neg (cutShort_iff.not.mp hcut), if_neg (noneResolved_iff.not.mp hnone)]

/-- A result is the one that the reports and the flag call for. -/
structure Decides (stopped : Bool) (total : Nat) (reports : List (DeviceReport Float))
    (result : Except Failure (List DeviceSummary)) : Prop where
  interrupted : result = .error (.of (.run (.interrupted reports.length total))) ↔
    CutShort stopped total reports
  allDevicesFailed : result = .error (.of (.run (.allDevicesFailed reports.length))) ↔
    ¬CutShort stopped total reports ∧ NoneResolved reports
  calibrated : ¬CutShort stopped total reports → ¬NoneResolved reports →
    ∃ summaries, result = .ok summaries ∧ List.Forall₂ Summarizes summaries reports

theorem decides_conclude : Decides stopped total (deliveries.map (·.report))
    (conclude stopped total deliveries).result := by
  have hcontexts : (deliveries.map (·.report)).map (·.context) =
      deliveries.map (·.report.context) := List.map_map
  rw [conclude]
  dsimp only
  rw [← hcontexts]
  by_cases hcut : CutShort stopped total (deliveries.map (·.report))
  · rw [runError?_of_cutShort hcut]
    exact ⟨iff_of_true rfl hcut, iff_of_false (by simp [Failure.of]) fun h ↦ h.1 hcut,
      fun hwhole ↦ absurd hcut hwhole⟩
  by_cases hnone : NoneResolved (deliveries.map (·.report))
  · rw [runError?_of_noneResolved hcut hnone]
    exact ⟨iff_of_false (by simp [Failure.of]) hcut, iff_of_true rfl ⟨hcut, hnone⟩,
      fun _ hsome ↦ absurd hnone hsome⟩
  · rw [runError?_eq_none hcut hnone]
    refine ⟨iff_of_false nofun hcut, iff_of_false nofun fun h ↦ hnone h.2, fun _ _ ↦ ⟨_, rfl, ?_⟩⟩
    rw [List.forall₂_map_left_iff, List.forall₂_map_right_iff, List.forall₂_same]
    exact fun delivery _ ↦ summarizes_ofReport delivery.report

end Command

/-! ## Codes of failed runs -/

namespace Text

/-- What occurs in a text has no letters the text does not have. -/
theorem contains_eq_false {text pattern : String} {c : Char} (hpattern : c ∈ pattern.toList)
    (htext : c ∉ text.toList) : contains text pattern = false := by
  rw [← Bool.not_eq_true, contains, occursIn_iff]
  rintro ⟨before, after, h⟩
  exact htext (h ▸ List.mem_append_left _ (List.mem_append_right _ hpattern))

theorem all_append {p : Char → Bool} {first second : String} (hfirst : first.toList.all p = true)
    (hsecond : second.toList.all p = true) : (first ++ second).toList.all p = true := by
  rw [String.toList_append, List.all_append, hfirst, hsecond, Bool.and_self]

end Text

namespace Failure

/-- The failure ends the program with a code, and is reported as data with the code and a reason. -/
structure EndsWith (failure : Failure) (code : Nat) (reason : String) : Prop where
  streams : ∀ json, (Program.streams json (.error failure)).code = code
  exitCode : failure.json.get? "exit_code" = some (.nat code)
  reason : failure.json.get? "reason" = some (.str reason)

/-- Whether the failure is worded as one of the configuration, in any case. -/
def SpeaksOfConfig (failure : Failure) : Prop :=
  Text.contains (Text.lowerAscii failure.text) "invalid configuration" = true ∨
    Text.contains (Text.lowerAscii failure.text) "parse config" = true

theorem isConfigFailure_iff {failure : Failure} :
    failure.isConfigFailure = true ↔ failure.SpeaksOfConfig := by
  rw [isConfigFailure, Bool.or_eq_true]
  rfl

section

variable {error : RunError} {contexts : List String}

theorem kind_interrupted {completed total : Nat}
    (h : ¬SpeaksOfConfig ⟨.run (.interrupted completed total), contexts⟩) :
    kind ⟨.run (.interrupted completed total), contexts⟩ = .interrupted :=
  if_neg (isConfigFailure_iff.not.mpr h)

theorem kind_allDevicesFailed {devices : Nat}
    (h : ¬SpeaksOfConfig ⟨.run (.allDevicesFailed devices), contexts⟩) :
    kind ⟨.run (.allDevicesFailed devices), contexts⟩ = .nothingCalibrated :=
  if_neg (isConfigFailure_iff.not.mpr h)

theorem endsWith_of_kind {kind : Kind} (h : Failure.kind ⟨.run error, contexts⟩ = kind) :
    EndsWith ⟨.run error, contexts⟩ kind.exitCode kind.reason := by
  refine ⟨fun json ↦ ?_, ?_, ?_⟩
  · rw [Program.streams, h]
  · rw [json, h]
    cases error <;> rfl
  · rw [json, h]
    cases error <;> rfl

end

/-- Without its letter g, a text does not speak of the configuration. -/
theorem not_speaksOfConfig {failure : Failure}
    (h : failure.text.toList.all (·.toLower ≠ 'g') = true) : ¬failure.SpeaksOfConfig := by
  have hlower : 'g' ∉ (Text.lowerAscii failure.text).toList := by
    rw [Text.lowerAscii, String.toList_ofList, List.mem_map]
    rintro ⟨c, hmem, hg⟩
    exact of_decide_eq_true (List.all_eq_true.mp h c hmem) hg
  have hlacks : ∀ {phrase : String}, 'g' ∈ phrase.toList →
      Text.contains (Text.lowerAscii failure.text) phrase ≠ true := fun hphrase ↦
    Bool.eq_false_iff.mp (Text.contains_eq_false hphrase hlower)
  rintro (hfound | hfound)
  · exact hlacks (by decide) hfound
  · exact hlacks (by decide) hfound

theorem toLower_of_isDigit {c : Char} (h : c.isDigit = true) : c.toLower = c := by
  rw [Char.isDigit, Bool.and_eq_true, decide_eq_true_eq, decide_eq_true_eq] at h
  rw [Char.toLower, dif_neg]
  rintro ⟨hupper, _⟩
  have hbetween : 'A'.val ≤ '9'.val := UInt32.le_trans hupper h.2
  exact absurd hbetween (by decide)

/-- The messages of failed runs do not speak of the configuration. -/
theorem not_speaksOfConfig_of (error : RunError) : ¬SpeaksOfConfig (.of (.run error)) := by
  have hnumber : ∀ n : Nat, (toString n).toList.all (·.toLower ≠ 'g') = true := by
    intro n
    have hdigits : (toString n).toList = Nat.toDigits 10 n := String.toList_ofList
    rw [hdigits, List.all_eq_true]
    intro c hmem
    have hdigit := Nat.isDigit_of_mem_toDigits (by decide) (by decide) hmem
    rw [decide_eq_true_eq, toLower_of_isDigit hdigit]
    rintro rfl
    cases hdigit
  refine not_speaksOfConfig ?_
  change error.message.toList.all (·.toLower ≠ 'g') = true
  cases error with
  | interrupted completed total =>
    refine Text.all_append (Text.all_append (Text.all_append (Text.all_append ?_ (hnumber _)) ?_)
      (hnumber _)) ?_ <;> decide
  | allDevicesFailed devices =>
    refine Text.all_append (Text.all_append ?_ (hnumber _)) ?_ <;> decide

end Failure

/-! ## Whole runs -/

namespace Command

variable {work : DeviceSpec → Delivery Float} {jobs : Nat} {specs : List DeviceSpec}
  {raised stopped : Bool} {s : Pool.State Float} {dir : String} {files files' : Files}

/-- The text of a file in a directory. -/
abbrev textIn (dir name : String) (files : Files) : Except FileFault String :=
  ((Files.textAt (joinPath dir name)).run files).1

/-- What became of a run that ended in `s`: its outputs are in `files'` whatever its result is, and
its result is the one that the reports call for. -/
structure IsSettled (work : DeviceSpec → Delivery Float) (specs : List DeviceSpec) (stopped : Bool)
    (s : Pool.State Float) (dir : String) (files files' : Files) : Prop where
  /-- Every device was finished and is reported, or was left out. -/
  reports : ∃ finished, (Pool.inOrder s.delivered).Perm (finished.map work) ∧
    (finished ++ s.skipped).Perm specs
  /-- Devices are left out only when the flag was raised. -/
  skipped : s.skipped ≠ [] → s.stopRaised = true
  ordered : (Pool.inOrder s.delivered).Pairwise fun a b ↦ a.key.le b.key = true
  rowLog : textIn dir Program.rowLogName files' = .ok (RowLog.text s.rows)
  document : textIn dir Program.documentName files' =
    .ok (Document.ofContexts ((Pool.inOrder s.delivered).map (·.report.context))).pretty
  result : ∃ result,
    (Program.settle dir (conclude stopped specs.length (Pool.inOrder s.delivered))).run files =
        (result, files') ∧
      Decides stopped specs.length ((Pool.inOrder s.delivered).map (·.report)) result

theorem isSettled (h : Pool.Reaches work (.start jobs specs raised) s) (hdone : s.isDone)
    (hwritten : (Program.writeOutputs dir
      (conclude stopped specs.length (Pool.inOrder s.delivered))).run files = (.ok (), files')) :
    IsSettled work specs stopped s dir files files' where
  reports := by
    obtain ⟨finished, hdelivered, hplaces⟩ := h.exists_reported hdone
    refine ⟨finished, ?_, hplaces⟩
    rw [← hdelivered]
    exact Pool.inOrder_perm _
  skipped hskipped := by
    by_contra hlowered
    exact hskipped (h.skipped_eq_nil (Bool.eq_false_iff.mpr hlowered))
  ordered := Pool.pairwise_inOrder _
  rowLog := (Program.textAt_of_writeOutputs hwritten).1
  document := (Program.textAt_of_writeOutputs hwritten).2
  result := ⟨_, Program.settle_run hwritten, decides_conclude⟩

/-- Failed runs end the program with codes of their own. -/
structure FailedRunsEndApart : Prop where
  interrupted : ∀ completed total contexts,
    ¬Failure.SpeaksOfConfig ⟨.run (.interrupted completed total), contexts⟩ →
      Failure.EndsWith ⟨.run (.interrupted completed total), contexts⟩ 5 "Interrupted"
  allDevicesFailed : ∀ devices contexts,
    ¬Failure.SpeaksOfConfig ⟨.run (.allDevicesFailed devices), contexts⟩ →
      Failure.EndsWith ⟨.run (.allDevicesFailed devices), contexts⟩ 4 "AllDevicesFailed"
  /-- So a failed run ends when nothing is put around it. -/
  plain : ∀ error, ¬Failure.SpeaksOfConfig (.of (.run error))

/-- A run that came to its end and whose outputs could be written has lost no finished work, whether
it counts as failed or not; and how it failed, if it did, can be told from the exit code in any
context that does not speak of the configuration. -/
theorem finished_work_outlives_result
    (h : Pool.Reaches work (.start jobs specs raised) s) (hdone : s.isDone)
    (hwritten : (Program.writeOutputs dir
      (conclude stopped specs.length (Pool.inOrder s.delivered))).run files = (.ok (), files')) :
    IsSettled work specs stopped s dir files files' ∧ FailedRunsEndApart :=
  ⟨isSettled h hdone hwritten, fun _ _ _ h ↦ Failure.endsWith_of_kind (Failure.kind_interrupted h),
    fun _ _ h ↦ Failure.endsWith_of_kind (Failure.kind_allDevicesFailed h),
    Failure.not_speaksOfConfig_of⟩

/-- Where there are no files yet, outputs can be written. -/
theorem exists_written (outcome : CalibrationOutcome) :
    ∃ files', (Program.writeOutputs "" outcome).run .empty = (.ok (), files') := by
  let rowLog : Place := ⟨.above 0, [Program.rowLogName]⟩
  let document : Place := ⟨.above 0, [Program.documentName]⟩
  have hrowLog : (Program.writeFile "create" (joinPath "" Program.rowLogName) outcome.rowLog).run
      .empty = (.ok (), Files.empty.insert rowLog (.file outcome.rowLog)) :=
    Program.writeFile_eq_ok_iff.mpr ⟨_, rfl, Files.write_eq_ok_iff.mpr
      ⟨by decide +kernel, rowLog, by decide +kernel, by decide +kernel, rfl⟩⟩
  have hlocate : Files.empty.locate (.ofText (joinPath "" Program.documentName)) =
      .ok document := by decide +kernel
  have hnode : (Files.empty.insert rowLog (.file outcome.rowLog)).node? document ≠
      some .directory := by
    rw [Files.node?_insert, if_neg (by decide), if_neg (by decide)]
    decide +kernel
  obtain ⟨files', hdocument⟩ : ∃ files', (Program.writeFile "write"
      (joinPath "" Program.documentName) outcome.document).run
        (Files.empty.insert rowLog (.file outcome.rowLog)) = (.ok (), files') :=
    ⟨_, Program.writeFile_eq_ok_iff.mpr ⟨_, rfl, Files.write_eq_ok_iff.mpr
      ⟨by decide +kernel, document, Files.follow_insert (by decide +kernel) hlocate, hnode, rfl⟩⟩⟩
  refine ⟨files', ?_⟩
  change (Program.writeFile "create" (joinPath "" Program.rowLogName) outcome.rowLog >>= fun _ ↦
    Program.writeFile "write" (joinPath "" Program.documentName) outcome.document).run .empty = _
  rw [run_bind, hrowLog]
  exact hdocument

/-- One worker has finished the first device, the other has left out the second, as the flag was
raised in the meantime. -/
def stoppedEarly : Pool.State Float where
  queue := []
  workers := [.idle, .idle]
  delivered := [calibrateDevice (oneBoard [3, 1]) defaultOptions ⟨⟨"MMFE8", 3⟩, .a, 1, .mmfe8, 1⟩]
  skipped := [⟨⟨"MMFE8", 1⟩, .a, 1, .mmfe8, 1⟩]
  stopRaised := true

theorem finished_work_outlives_result_stopped_early :
    Pool.Reaches (calibrateDevice (oneBoard [3, 1]) defaultOptions)
        (.start 2 (oneBoard [3, 1]).devices false) stoppedEarly ∧
      stoppedEarly.isDone ∧
      ∃ files', (Program.writeOutputs "" (conclude true (oneBoard [3, 1]).devices.length
            (Pool.inOrder stoppedEarly.delivered))).run .empty = (.ok (), files') ∧
        IsSettled (calibrateDevice (oneBoard [3, 1]) defaultOptions) (oneBoard [3, 1]).devices true
          stoppedEarly "" .empty files' ∧
        FailedRunsEndApart := by
  have hreaches : Pool.Reaches (calibrateDevice (oneBoard [3, 1]) defaultOptions)
      (.start 2 (oneBoard [3, 1]).devices false) stoppedEarly :=
    .head (.take (i := 0) rfl rfl) <| .head (.start (i := 0) rfl rfl) <|
    .head (.take (i := 1) rfl rfl) <| .head .raise <| .head (.skip (i := 1) rfl rfl) <|
    .head (.deliver (i := 0) rfl) .refl
  have hdone : stoppedEarly.isDone := ⟨rfl, by simp [stoppedEarly]⟩
  obtain ⟨files', hwritten⟩ := exists_written (conclude true (oneBoard [3, 1]).devices.length
    (Pool.inOrder stoppedEarly.delivered))
  exact ⟨hreaches, hdone, files', hwritten, finished_work_outlives_result hreaches hdone hwritten⟩

/-- In a context that speaks of the configuration in capitals, an interrupted run ends the program
as a failed setup. -/
theorem capitals_hide_interruption :
    let failure : Failure := ⟨.run (.interrupted 1 3), ["Invalid Configuration"]⟩
    Text.contains failure.text "invalid configuration" = false ∧
      Text.contains failure.text "parse config" = false ∧
      failure.EndsWith 3 "Setup" ∧ ¬failure.EndsWith 5 "Interrupted" := by
  have hkind : Failure.kind ⟨.run (.interrupted 1 3), ["Invalid Configuration"]⟩ = .setup := by
    decide
  have hends := Failure.endsWith_of_kind hkind
  refine ⟨by decide, by decide, hends, fun hother ↦ ?_⟩
  have hcodes : 3 = 5 := (hends.streams false).symm.trans (hother.streams false)
  exact absurd hcodes (by decide)

end Command

end ThresholdTrim
