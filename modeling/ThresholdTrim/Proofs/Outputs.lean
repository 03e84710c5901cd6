import ThresholdTrim.Proofs.Binary
import ThresholdTrim.Proofs.Documents
import ThresholdTrim.Proofs.FinalContext
import ThresholdTrim.Proofs.TwoRuns.Stages
import ThresholdTrim.RowLog
import ThresholdTrim.Pool

/-!
# Outputs of a device

A device is told of three times: in the row log, in the register document, and in the registers
that are pushed back. Each is read off the context in a way of its own, so that they agree takes two
facts about contexts a run can end with. There is a mask entry for every channel, which makes flags
and masks the same. And every record is either that of a batch or the one that stands for no
measurement (`Context.RecordsBatches`): a spread is no negative number, so what counts as unmeasured
is shown as such.

Pushing comes last. The calibration before it makes no write, and never looks at how writes are
answered, so two runs that differ in nothing else give one report.
-/

namespace ThresholdTrim

open Scalar

variable {σ R : Type} [Scalar R] {bench : Bench σ R} {geometry : Geometry} {settings : Settings R}
  {mode : Mode} {spec : DeviceSpec} {context after final : Context R} {entries : Journal}
  {channel : Nat}

/-! ## Records -/

/-- Every record is that of a batch, or stands for no measurement. -/
def Context.RecordsBatches (context : Context R) : Prop :=
  ∀ record ∈ context.baselines, record = .unmeasured ∨
    ∃ samples cutoff flavor, BaselineRecord.ofBatch samples cutoff flavor = some record

theorem Context.recordsBatches_new (spec : DeviceSpec) (thdacMax trimMid : Nat) :
    (Context.new spec thdacMax trimMid : Context R).RecordsBatches :=
  fun _ hmem ↦ .inl (List.mem_replicate.mp hmem).2

theorem Baseline.Visited.recordsBatches
    (h : Baseline.Visited bench geometry channel context () entries after)
    (hcontext : context.RecordsBatches) : after.RecordsBatches := by
  cases h with
  | unconnected | pruned | failed => exact hcontext
  | measured _ _ hrecord =>
    intro record hmem
    rcases List.mem_or_eq_of_mem_set hmem with hmem | rfl
    · exact hcontext record hmem
    · exact .inr ⟨_, _, _, hrecord⟩

theorem Baseline.Sampled.recordsBatches {result : Except (CalibrationError R) (DeviceBaseline R)}
    (h : Baseline.Sampled bench geometry context result entries after)
    (hcontext : context.RecordsBatches) : after.RecordsBatches := by
  cases h with
  | measured visits | unmeasured visits =>
    exact visits.preserves (fun _ _ _ _ _ _ hvisit ↦ hvisit.recordsBatches) hcontext

theorem Calibration.Staged.recordsBatches {result : Except (CalibrationError R) Unit}
    (h : Staged bench geometry settings mode (start settings spec) result entries after) :
    after.RecordsBatches := by
  have hstart : (start settings spec).RecordsBatches := Context.recordsBatches_new _ _ _
  cases h with
  | unmeasured sample => exact sample.recordsBatches hstart
  | measured sample rest =>
    rw [Context.RecordsBatches, rest.baselines]
    exact sample.recordsBatches hstart

/-- A batch is measured, whatever its samples. -/
theorem BaselineRecord.isMeasured_of_ofBatch {samples : List Nat} {cutoff : Float} {flavor : Flavor}
    {record : BaselineRecord Float} (h : ofBatch samples cutoff flavor = some record) :
    record.isMeasured = true := by
  simp only [ofBatch, Statistics.summarize, Option.bind_eq_bind, Option.bind_eq_some_iff,
    Option.map_eq_some_iff] at h
  obtain ⟨_, _, _, ⟨_, _, rfl⟩, hrecord⟩ := h
  obtain rfl := Option.some.inj hrecord
  exact Binary.zero_le_rms _ _

theorem Context.RecordsBatches.baseline_eq {context : Context Float} (h : context.RecordsBatches)
    (hunmeasured : (context.baseline channel).isMeasured = false) :
    context.baseline channel = .unmeasured := by
  rw [Context.baseline] at hunmeasured ⊢
  cases hrecord : context.baselines[channel]? with
  | none => rfl
  | some record =>
    rw [hrecord, Option.getD_some] at hunmeasured
    rcases h record (List.mem_of_getElem? hrecord) with rfl | ⟨_, _, _, hbatch⟩
    · rfl
    · rw [BaselineRecord.isMeasured_of_ofBatch hbatch] at hunmeasured
      cases hunmeasured

theorem Flavor.toMillivolts_zero (flavor : Flavor) :
    flavor.toMillivolts (ofCount 0 : Float) = ofCount 0 := by
  cases flavor <;> decide +kernel

/-! ## Rows, registers and documents -/

/-- A row says of its channel what the registers say, and what the document says of the device. -/
structure ChannelRow.Agrees (row : ChannelRow R) (registers : RegisterMap) (stored : Json) :
    Prop where
  dac : registers.thresholdDac = row.thresholdDac ∧
    stored.get? "thresholdDac" = some (.nat row.thresholdDac)
  trim : registers.channelTrim[row.channel]? = some row.bestTrim ∧
    ∃ trims, stored.get? "channel_trim" = some (.arr trims) ∧
      trims[row.channel]? = some (.nat row.bestTrim)
  flag : registers.channelMask[row.channel]? = some row.masked ∧
    ∃ flags, stored.get? "channel_mask" = some (.arr flags) ∧
      flags[row.channel]? = some (.nat row.masked.toNat)

theorem ChannelRow.agrees_ofContext (hfits : context.Fits)
    (hinside : channel < context.spec.channels) :
    (ofContext context channel).Agrees context.registers
      (Document.ofRegisters context.registers) := by
  have htrim : context.registers.channelTrim[channel]? = some (context.channelTrim channel) := by
    rw [Context.registers, List.getElem?_map, List.getElem?_range hinside, Option.map_some]
  have hflag : context.registers.channelMask[channel]? =
      some (context.mask.isMasked channel) := by
    rw [← hfits] at hinside
    rw [Context.registers, ChannelMask.flags, List.getElem?_map, ChannelMask.isMasked,
      ChannelMask.reason, List.getElem?_eq_getElem hinside]
    rfl
  refine ⟨⟨rfl, rfl⟩, ⟨htrim, _, rfl, ?_⟩, hflag, _, rfl, ?_⟩
  · rw [List.getElem?_map]
    exact congrArg (Option.map Json.nat) htrim
  · rw [List.getElem?_map]
    exact congrArg (Option.map fun masked ↦ Json.nat masked.toNat) hflag

/-- The outputs of a device tell the same of it. -/
structure OutputsAgree (context : Context R) : Prop where
  /-- There is one row for every channel, in order. -/
  channels : (ChannelRow.all context).map ChannelRow.channel = List.range context.spec.channels
  agree : ∃ stored, ((Document.ofContext context).get? context.spec.key.board).bind
      (·.get? (DeviceKey.slot context.spec.key.vmm)) = some stored ∧
    ∀ row ∈ ChannelRow.all context, row.Agrees context.registers stored
  masked : ∀ row ∈ ChannelRow.all context, row.masked = true →
    row.bestTrim = 0 ∧ row.trimmedMv = ofCount 0 ∧ row.trimmedEffMv = ofCount 0
  unmeasured : ∀ row ∈ ChannelRow.all context,
    (context.baseline row.channel).isMeasured = false →
      row.baselineMv = ofCount 0 ∧ row.baselineRmsMv = -ofCount 1

theorem Context.RecordsBatches.outputsAgree {context : Context Float} (h : context.RecordsBatches)
    (hfits : context.Fits) : OutputsAgree context := by
  have hrow : ∀ row ∈ ChannelRow.all context,
      ∃ channel < context.spec.channels, row = .ofContext context channel := by
    intro row hmem
    obtain ⟨channel, hchannel, rfl⟩ := List.mem_map.mp hmem
    exact ⟨channel, List.mem_range.mp hchannel, rfl⟩
  refine ⟨?_, ⟨Document.ofRegisters context.registers, ?_, fun row hmem ↦ ?_⟩,
    fun row hmem hmasked ↦ ?_, fun row hmem hunmeasured ↦ ?_⟩
  · rw [ChannelRow.all, List.map_map]
    exact List.map_id _
  · simp [Document.ofContext, Json.get?, Json.lookup]
  · obtain ⟨channel, hinside, rfl⟩ := hrow row hmem
    exact ChannelRow.agrees_ofContext hfits hinside
  · obtain ⟨channel, _, rfl⟩ := hrow row hmem
    have hmasked : context.mask.isMasked channel = true := hmasked
    simp [ChannelRow.ofContext, Context.channelTrim, hmasked]
  · obtain ⟨channel, _, rfl⟩ := hrow row hmem
    rw [ChannelRow.ofContext] at hunmeasured ⊢
    dsimp only at hunmeasured ⊢
    rw [hunmeasured, h.baseline_eq hunmeasured]
    exact ⟨Flavor.toMillivolts_zero _, rfl⟩

/-- Giving up on a device changes no record and masks no channel but those it has. -/
theorem OutputsAgree.fail {context : Context Float} (h : context.RecordsBatches)
    (hfits : context.Fits) (cause : CalibrationError Float) : OutputsAgree (context.fail cause) :=
  Context.RecordsBatches.outputsAgree h (ChannelMask.length_reasons_maskAll.trans hfits)

theorem Calibration.Calibrated.outputsAgree {bench : Bench σ Float} {settings : Settings Float}
    {final : Context Float} (h : Calibrated bench geometry settings mode spec entries final) :
    OutputsAgree final := by
  cases h with
  | resolved stages =>
    have hfits := stages.follows_any.fits fits_start
    exact Context.RecordsBatches.outputsAgree stages.recordsBatches hfits
  | masked stages =>
    have hfits := stages.follows_any.fits fits_start
    exact OutputsAgree.fail stages.recordsBatches hfits _

/-! ## Pushing registers -/

/-- What a push enters: the write, and a notice when it failed. -/
def Journal.ofPush (device : DeviceKey) (registers : RegisterMap)
    (answer : Except FrontEndError Unit) : Journal :=
  .write device registers answer ::
    match answer with
    | .ok () => []
    | .error _ => [.notice .writeBackFailed]

theorem Journal.Within.writes_eq_nil {remit : Remit} {mask : ChannelMask}
    (h : Journal.Within spec remit mask entries) : entries.writes = [] := by
  refine List.filterMap_eq_nil_iff.mpr fun entry hmem ↦ ?_
  obtain ⟨_, _, _, hentry⟩ := h.exists_append hmem
  cases entry with
  | write => exact hentry.elim
  | _ => rfl

theorem Calibration.Calibrated.writes_eq_nil
    (h : Calibrated bench geometry settings mode spec entries final) : entries.writes = [] := by
  cases h with
  | resolved stages => exact stages.follows_any.within.writes_eq_nil
  | masked stages =>
    have hwrites := stages.follows_any.within.writes_eq_nil
    rw [Journal.writes] at hwrites ⊢
    rw [List.filterMap_append, hwrites]
    rfl

omit [Scalar R] in
/-- Benches that read alike and write in different ways are alike: no stage writes. -/
theorem Bench.alike_of_write (bench : Bench σ R)
    (write : DeviceKey → RegisterMap → σ → Except FrontEndError Unit × σ) :
    Bench.Alike Eq bench { bench with frontEnd := { bench.frontEnd with write } } := by
  refine Bench.alike_of_call ⟨fun _ h ↦ h ▸ rfl, fun h ↦ h ▸ rfl⟩ rfl ?_ fun request ↦ ?_
  · rintro link _ rfl
    exact ⟨rfl, rfl⟩
  · rintro link _ rfl
    exact ⟨rfl, rfl⟩

namespace Calibrator

omit [Scalar R] in
theorem journal_pushRegisters (calibrator : Calibrator σ R) (context : Context R) (link : Link σ) :
    (calibrator.pushRegisters context link).journal = link.journal ++
      .ofPush context.spec.key context.registers
        (calibrator.frontEnd.write context.spec.key context.registers link.frontEnd).1 := by
  have hwritten : (Sampler.written calibrator.bench context.spec.key context.registers
      link).journal = link.journal ++ [.write context.spec.key context.registers
        (calibrator.frontEnd.write context.spec.key context.registers link.frontEnd).1] :=
    link.journal_enter _
  rw [pushRegisters_eq]
  change Link.journal (match (calibrator.frontEnd.write _ _ _).1 with
    | .ok () => _
    | .error _ => _) = _
  cases hanswer :
      (calibrator.frontEnd.write context.spec.key context.registers link.frontEnd).1 with
  | ok => rw [hwritten, hanswer, Journal.ofPush]
  | error =>
    rw [Link.journal_enter, hwritten, hanswer, List.append_assoc]
    rfl

/-- Registers are pushed once, after everything else, and the report does not tell. -/
structure PushesOnce (calibrator : Calibrator σ R) (link : Link σ) : Prop where
  journal : ∃ entries state, entries.writes = [] ∧
    (calibrator.run link).2.journal = link.journal ++ entries ++
      if calibrator.writeBack then
        let registers := (calibrator.run link).1.context.registers
        Journal.ofPush calibrator.spec.key registers
          (calibrator.frontEnd.write calibrator.spec.key registers state).1
      else []
  report : ∀ write writeBack,
    (run { calibrator with frontEnd := { calibrator.frontEnd with write }, writeBack } link).1 =
      (calibrator.run link).1

theorem pushesOnce (calibrator : Calibrator σ R) (link : Link σ) : calibrator.PushesOnce link := by
  let calibrated := Calibration.calibrate calibrator.bench calibrator.geometry calibrator.settings
    calibrator.mode calibrator.spec link
  obtain ⟨entries, hjournal, hcourse⟩ := Calibration.exists_course calibrator.bench
    calibrator.geometry calibrator.settings calibrator.mode calibrator.spec link
  refine ⟨⟨entries, calibrated.link.frontEnd, hcourse.writes_eq_nil, ?_⟩, fun write writeBack ↦ ?_⟩
  · rw [run, ← hjournal]
    dsimp only
    split
    · rw [journal_pushRegisters, hcourse.spec_eq]
    · exact (List.append_nil _).symm
  · obtain ⟨hlink, hcontext⟩ := Calibration.calibrate_alike calibrator.geometry
      calibrator.settings calibrator.mode calibrator.spec
      (Bench.alike_of_write calibrator.bench write) (Eq.refl link)
    change DeviceReport.mk _ _ _ = DeviceReport.mk _ _ _
    rw [hcontext, hlink]
    rfl

end Calibrator

/-- All outputs of a device tell the same of it, and pushing its registers changes none of them. -/
theorem outputs_tell_one_story (bench : Bench σ Float) (link : Link σ)
    (calibrator : Calibrator σ Float) (cause : String) :
    OutputsAgree (Calibration.calibrate bench calibrator.geometry calibrator.settings
        calibrator.mode calibrator.spec link).context ∧
      OutputsAgree
        (Delivery.ofSetupFailure calibrator.settings calibrator.spec cause).report.context ∧
      calibrator.PushesOnce link := by
  obtain ⟨_, _, hcourse⟩ := Calibration.exists_course bench calibrator.geometry
    calibrator.settings calibrator.mode calibrator.spec link
  refine ⟨hcourse.outputsAgree, ?_, calibrator.pushesOnce link⟩
  exact OutputsAgree.fail (Context.recordsBatches_new _ _ _) List.length_replicate _

end ThresholdTrim
