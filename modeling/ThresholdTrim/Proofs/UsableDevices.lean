import ThresholdTrim.Proofs.BelowBaseline
import ThresholdTrim.Proofs.Binary.Counts
import ThresholdTrim.Proofs.Configurations
import ThresholdTrim.Proofs.SteadyPass

/-!
# Devices with a channel to use

A calibration that goes through should leave a channel in use. Every stage masks channels, each for
a reason of its own. Up to the trims a stage that takes the last one fails, and the device is given
up on: a median over the channels in use stands in the way, and there is none of nothing. The
classifier takes no such median, but it cannot mask them all, for the device median it goes by is
the median of some channel, and that one is not hot.

The trims are the exception. A pass takes its median before it settles the channels, and in settling
it masks again. What is lost there is never looked at, and a device can be resolved with nothing
left of it (`LostAtTrims`).
-/

namespace ThresholdTrim

open Scalar Statistics

/-- Scalars in which a factor above one does not lower a count, and one below zero is no spread. -/
class ClassifierScalar (R : Type) [Scalar R] : Prop where
  not_lt_mul : ∀ {n : Nat} {factor : R}, lt (ofCount 1) factor = true →
    lt (ofCount n * factor) (ofCount n) = false
  not_nonneg : le (ofCount 0) (-(ofCount 1 : R)) = false

instance : ClassifierScalar ℚ where
  not_lt_mul {n factor} h := by
    have hfactor : (1 : ℚ) ≤ factor := by
      have hlt := lt_rat.mp h
      exact_mod_cast hlt.le
    refine decide_eq_false (not_lt.mpr ?_)
    exact le_mul_of_one_le_right n.cast_nonneg hfactor
  not_nonneg := by decide

instance : ClassifierScalar Float where
  not_lt_mul {n factor} h := by
    obtain ⟨hone, hfactor, hlt⟩ := Binary.lt_iff.mp h
    have hle : le (ofCount 1) factor = true := Binary.le_iff.mpr ⟨hone, hfactor, hlt.le⟩
    exact Binary.lt_eq_false_iff.mpr fun hproduct _ ↦
      Binary.le_value_mul (Binary.zero_le_ofCount n) hle hproduct
  not_nonneg := by decide

variable {σ R : Type} [Scalar R] {bench : Bench σ R} {geometry : Geometry}
  {context after : Context R} {channel : Nat} {entries : Journal}

/-! ## Medians of something -/

/-- A device baseline is the median of a channel that was measured. -/
theorem DeviceBaseline.exists_record {records : List (BaselineRecord R)}
    {device : DeviceBaseline R} (h : ofRecords records = some device) :
    ∃ record ∈ records, record.isMeasured = true ∧ record.median = device.median := by
  obtain ⟨median, hmedian, h⟩ := Option.bind_eq_some_iff.mp h
  obtain ⟨rms, _, h⟩ := Option.bind_eq_some_iff.mp h
  obtain rfl := Option.some.inj h
  obtain ⟨record, hmem, hrecord⟩ := List.mem_map.mp (mem_of_scalarMedian hmedian)
  obtain ⟨hmem, hmeasured⟩ := List.mem_filter.mp hmem
  exact ⟨record, hmem, hmeasured, hrecord⟩

/-- When the channels with a value are those in use and the values have a median, a channel is in
use. -/
theorem ChannelMask.Selects.exists_inUse {mask : ChannelMask} {channels : Nat}
    {values : List (Option R)} {median : R} (h : mask.Selects channels values)
    (hmedian : scalarMedian (values.filterMap id) = some median) :
    ∃ channel < channels, mask.isMasked channel = false := by
  have hmem : some median ∈ values := by
    simpa using mem_of_scalarMedian hmedian
  obtain ⟨channel, hinside, hvalue⟩ := List.mem_iff_getElem.mp hmem
  have hlength : channel < channels := h.1 ▸ hinside
  refine ⟨channel, hlength, (h.2 channel hlength).mp ?_⟩
  rw [List.getElem?_eq_getElem hinside, hvalue]
  rfl

/-! ## Baselines -/

theorem BaselineRecord.exists_count {batch : List Nat} {cutoff : R} {flavor : Flavor}
    {record : BaselineRecord R} (h : ofBatch batch cutoff flavor = some record) :
    ∃ n ∈ batch, record.median = ofCount n := by
  obtain ⟨raw, _, h⟩ := Option.bind_eq_some_iff.mp h
  obtain ⟨summary, hsummary, h⟩ := Option.bind_eq_some_iff.mp h
  obtain rfl := Option.some.inj h
  obtain ⟨n, hmedian, rfl⟩ := Option.map_eq_some_iff.mp hsummary
  exact ⟨n, List.mem_of_mem_filter (mem_of_median hmedian), rfl⟩

namespace Baseline

variable {units : List Unit} {device : DeviceBaseline R}

variable [ClassifierScalar R]

/-- A channel with a measured baseline was in use when it was visited, and still is. -/
theorem visits_measured
    (h : Chain (Visited bench geometry) (List.range context.spec.channels) context units entries
      after) (hinside : channel < context.spec.channels)
    (hunmasked : context.mask.isMasked channel = false)
    (hunmeasured : context.baselines[channel]? = some .unmeasured) {record : BaselineRecord R}
    (hrecord : after.baselines[channel]? = some record) (hmeasured : record.isMeasured = true) :
    after.mask.isMasked channel = false ∧ ∃ n : Nat, record.median = ofCount n := by
  obtain ⟨before, own, later, k, k', _, _, hown, hreason, hbaseline, hreason', hbaseline'⟩ :=
    visits_turn h hinside
  rw [hbaseline'] at hrecord
  -- a visit that enters no record leaves the channel unmeasured
  have hentered : k'.baselines[channel]? ≠ k.baselines[channel]? := by
    intro hsame
    rw [hsame, hbaseline, hunmeasured] at hrecord
    obtain rfl := Option.some.inj hrecord
    exact Bool.noConfusion (hmeasured.symm.trans ClassifierScalar.not_nonneg)
  cases hown with
  | unconnected | pruned | failed => exact absurd rfl hentered
  | measured _ _ hbatch =>
    have hplace : channel < k.baselines.length :=
      (List.getElem?_eq_some_iff.mp (hbaseline.trans hunmeasured)).1
    rw [List.getElem?_set_self hplace] at hrecord
    obtain rfl := Option.some.inj hrecord
    obtain ⟨n, _, hmedian⟩ := BaselineRecord.exists_count hbatch
    refine ⟨?_, n, hmedian⟩
    rw [ChannelMask.isMasked, hreason', hreason]
    exact hunmasked

end Baseline

namespace Calibration

variable [ClassifierScalar R] {settings : Settings R} {spec : DeviceSpec} {mode : Mode}
  {device : DeviceBaseline R}

/-- Baseline sampling that ends well leaves a channel in use whose median is that of the device. -/
theorem sampled_exists_inUse
    (h : Baseline.Sampled bench geometry (start settings spec) (.ok device) entries after) :
    ∃ channel, after.InUse channel ∧ (after.baseline channel).median = device.median ∧
      ∃ n : Nat, device.median = ofCount n := by
  have hspec : after.spec = spec := by
    rw [h.replay]
    rfl
  cases h with
  | @measured _ _ after _ visits hdevice =>
    -- the device median is that of a record, and a record has the place of its channel
    obtain ⟨record, hmem, hmeasured, hmedian⟩ := DeviceBaseline.exists_record hdevice
    obtain ⟨channel, hlength, hrecord⟩ := List.mem_iff_getElem.mp hmem
    have hrecord : after.baselines[channel]? = some record := by
      rw [List.getElem?_eq_getElem hlength, hrecord]
    have hinside : channel < spec.channels := by
      have hcount : after.baselines.length = spec.channels := by
        refine visits.preserves (P := fun k ↦ k.baselines.length = spec.channels)
          (fun _ _ k _ _ k' hvisit hk ↦ hvisit.length_baselines.trans hk) ?_
        exact List.length_replicate
      exact hcount ▸ hlength
    have hunmeasured : (start settings spec).baselines[channel]? = some .unmeasured := by
      rw [start, Context.new, List.getElem?_replicate, if_pos hinside]
    obtain ⟨hinUse, n, hcount⟩ := Baseline.visits_measured visits hinside (isMasked_start channel)
      hunmeasured hrecord hmeasured
    refine ⟨channel, ⟨hspec.symm ▸ hinside, hinUse⟩, ?_, n, hmedian ▸ hcount⟩
    rw [Context.baseline, hrecord]
    exact hmedian

end Calibration

/-! ## Classification -/

section

variable {settings : ClassifierSettings R} {device : DeviceBaseline R}
  {verdict : Classification}

/-- A channel that is not hot comes through the classification. -/
theorem Classified.isMasked_eq_false (h : Classified settings context verdict entries after)
    (hdevice : context.deviceBaseline = some device)
    (hcool : lt (device.median * settings.hotFactor) (context.baseline channel).median = false)
    (hinUse : context.mask.isMasked channel = false) : after.mask.isMasked channel = false := by
  cases h with
  | nothing => exact hinUse
  | @judged judge _ _ _ _ hjudge channels =>
    obtain rfl := Option.some.inj (hjudge.symm.trans hdevice)
    refine (channels.preserves (P := fun k ↦ k.1.baseline channel = context.baseline channel ∧
      k.1.mask.isMasked channel = false) (fun other _ k _ own k' hstep hk ↦ ?_)
      ⟨rfl, hinUse⟩).2
    obtain ⟨hbaseline, hinUse⟩ := hk
    refine ⟨?_, ?_⟩
    · rw [hstep.replay]
      exact hbaseline
    · cases hstep with
      | unmeasured | cold => exact hinUse
      | hot _ hclass hhot =>
        -- the channel that is masked is a hot one, and so another one
        have hne : channel ≠ other := by
          rintro rfl
          rw [hclass, ChannelClass.of, hbaseline] at hhot
          exact Bool.noConfusion (hhot.symm.trans hcool)
        rw [Context.withMask, ChannelMask.isMasked, ChannelMask.reason_mask,
          if_neg fun hsame ↦ hne hsame.1]
        exact hinUse

end

/-! ## Trims -/

/-- The trim stage found regions on the device and masked the channels that had them, in settling
them. The register stays where it was solved for. -/
structure LostAtTrims (final : Context R) : Prop where
  threshold : final.threshold.isSome = true
  out : ∀ channel, ¬final.InUse channel
  settled : ∃ mid, final.mid = some mid ∧
    (∃ channel < final.spec.channels, mid.channelEff[channel]?.join.isSome = true) ∧
    ∀ channel < final.spec.channels, mid.channelEff[channel]?.join.isSome = true →
      final.mask.reason channel = some .noData ∨ final.mask.reason channel = some .belowBaseline

namespace Threshold

variable {settings : ThresholdSettings R} {dac : Nat} {mid : MidTrim R}

theorem MidMeasured.exists_inUse (h : MidMeasured bench dac context (.ok mid) entries after)
    (hfits : context.Fits) : ∃ channel, after.InUse channel := by
  have hspec := h.spec
  have hselects := h.selects hfits
  cases h with
  | measured _ hmedian =>
    obtain ⟨channel, hinside, hinUse⟩ := hselects.exists_inUse hmedian
    exact ⟨channel, hspec.symm ▸ hinside, hinUse⟩

theorem MarginChecked.exists_inUse
    (h : MarginChecked bench settings context (.ok mid) entries after)
    (hfits : context.Fits) : ∃ channel, after.InUse channel := by
  cases h with
  | kept _ first =>
    obtain ⟨channel, hinUse⟩ := first.exists_inUse hfits
    exact ⟨channel, hinUse⟩
  | raised _ _ _ first _ second =>
    obtain ⟨channel, hinUse⟩ := second.exists_inUse (first.replay ▸ Context.fits_replay hfits)
    exact ⟨channel, hinUse⟩

end Threshold

namespace Trim

variable {settings : TrimSettings R} {dac : Nat} {pass : Pass} {outcome : PassOutcome R}
  {deviceEff : R} {region : Region R} {settled : Settled R}

/-- A channel with a region is in use after it was settled, or masked for what was found then. -/
theorem SettledAs.inUse_or
    (h : SettledAs bench settings dac pass deviceEff (some region, channel) context settled entries
      after) (hplace : channel < context.mask.reasons.length)
    (hinUse : context.mask.isMasked channel = false) :
    after.mask.isMasked channel = false ∨ after.mask.reason channel = some .noData ∨
      after.mask.reason channel = some .belowBaseline := by
  have hmask : ∀ reason, (context.mask.mask channel reason).reason channel = some reason := by
    intro reason
    rw [ChannelMask.reason_mask, if_pos ⟨rfl, hplace⟩, ChannelMask.reason_eq_none_iff.mpr hinUse]
    rfl
  cases h with
  | leftAtMid => exact .inl hinUse
  | tried _ settle =>
    cases settle with
    | unread => exact .inr (.inl (hmask .noData))
    | below => exact .inr (.inr (hmask .belowBaseline))
    | short | aligned => exact .inl hinUse

/-- A pass that ends well found a region, and masks no channel that has one but in settling it. -/
theorem PassRun.regions_settled
    (h : PassRun bench settings dac pass context (.ok outcome) entries after)
    (hfits : context.Fits) :
    ∃ mid, after.mid = some mid ∧
      (∃ channel < context.spec.channels, mid.channelEff[channel]?.join.isSome = true) ∧
      ∀ channel < context.spec.channels, mid.channelEff[channel]?.join.isSome = true →
        after.mask.isMasked channel = false ∨ after.mask.reason channel = some .noData ∨
          after.mask.reason channel = some .belowBaseline := by
  cases h with
  | @done regions deviceEff all searches settles between last search hmedian settle =>
    have hmid : last.mid = some (midOf regions deviceEff) := by
      rw [settles_replay settle]
      rfl
    have hlength : regions.length = context.spec.channels :=
      search.length_eq.trans List.length_range
    refine ⟨_, hmid, ?_, fun channel hinside hregion ↦ ?_⟩
    · -- the device threshold is the median of what the regions have at mid trim
      have hmem : some deviceEff ∈ (midOf regions deviceEff).channelEff := by
        simpa [midOf] using mem_of_scalarMedian hmedian
      obtain ⟨channel, hinside, hvalue⟩ := List.mem_iff_getElem.mp hmem
      refine ⟨channel, ?_, ?_⟩
      · rw [midOf, List.length_map, hlength] at hinside
        exact hinside
      · rw [List.getElem?_eq_getElem hinside, hvalue]
        rfl
    · obtain ⟨settled, hsettled⟩ : ∃ settled, all[channel]? = some settled := by
        refine ⟨_, List.getElem?_eq_getElem ?_⟩
        rw [settle.length_eq, List.length_zipIdx, hlength]
        exact hinside
      -- of all the steps, only the channel's own one bears on its reason
      obtain ⟨found, before, own, later, k₁, k₂, hfound, _, rfl, hstep, hstart, hend, _⟩ :=
        exists_settled settle hsettled
      rw [midOf, List.getElem?_map, hfound] at hregion
      cases found with
      | none => cases hregion
      | some region =>
        obtain ⟨_, _, hinUse, _⟩ := exists_search search hfound
        have hplace : between.mask.reasons.length = context.spec.channels := by
          rw [regions_replay search]
          exact Context.length_reasons_replay.trans hfits
        have hsettled := hstep.inUse_or (by
          rw [Context.length_reasons_replay]
          exact hplace ▸ hinside) (by
          rw [ChannelMask.isMasked, hstart]
          exact hinUse)
        rw [ChannelMask.isMasked, ← hend] at hsettled
        exact hsettled

/-- The trim stage leaves a channel in use, or loses the device in settling its channels. -/
theorem Optimized.inUse_or_lost (h : Optimized bench settings context (.ok ()) entries after)
    (hfits : context.Fits) : (∃ channel, after.InUse channel) ∨ LostAtTrims after := by
  -- the last pass decides, be it the only one or the second
  have hpass : ∀ {dac pass outcome entries} {start : Context R},
      PassRun bench settings dac pass start (.ok outcome) entries after → start.Fits →
        (∃ channel, after.InUse channel) ∨ LostAtTrims after := by
    intro dac pass outcome entries start hrun hstart
    obtain ⟨mid, hmid, hregion, hsettled⟩ := hrun.regions_settled hstart
    rw [← hrun.spec] at hregion hsettled
    by_cases hinUse : ∃ channel, after.InUse channel
    · exact .inl hinUse
    rw [not_exists] at hinUse
    refine .inr ⟨h.threshold_isSome, hinUse, mid, hmid, hregion, fun channel hinside hvalue ↦ ?_⟩
    exact (hsettled channel hinside hvalue).resolve_left fun hfree ↦ hinUse channel ⟨hinside, hfree⟩
  cases h with
  | once _ first => exact hpass first hfits
  | again _ first _ _ _ second => exact hpass second (first.fits hfits)

end Trim

/-! ## Whole calibrations -/

omit [Scalar R] in
theorem Context.status_of_isResolved (h : context.isResolved = true) :
    context.status = .resolved := by
  rw [isResolved] at h
  split at h
  · assumption
  · cases h

namespace Calibration

variable {settings : Settings R} {mode : Mode} {spec : DeviceSpec}

/-- Once a channel comes through classification, each of the later stages that ends well leaves one
in use, the trims apart. -/
theorem Continued.inUse_or_lost (h : Continued bench settings mode context (.ok ()) entries after)
    (hfits : context.Fits)
    (hclassify : ∀ {verdict entries after}, Classified settings.classifier context verdict entries
      after → ∃ channel, after.InUse channel) :
    (∃ channel, after.InUse channel) ∨ mode = .trim ∧ LostAtTrims after := by
  cases h with
  | baseline _ classify => exact .inl (hclassify classify)
  | threshold _ classify _ check => exact .inl (check.exists_inUse (classify.fits hfits))
  | trim hmode classify _ check optimize =>
    have hchecked := check.fits (classify.fits hfits)
    exact (optimize.inUse_or_lost hchecked).imp_right fun hlost ↦ ⟨hmode, hlost⟩

/-- A calibration that goes through leaves a channel in use, or loses the device at its trims. -/
theorem Staged.inUse_or_lost [ClassifierScalar R]
    (h : Staged bench geometry settings mode (start settings spec) (.ok ()) entries after)
    (hhot : lt (ofCount 1) settings.classifier.hotFactor = true) :
    (∃ channel, after.InUse channel) ∨ mode = .trim ∧ LostAtTrims after := by
  cases h with
  | @measured device _ sampling later between _ sample rest =>
    obtain ⟨channel, ⟨hinside, hinUse⟩, hmedian, n, hcount⟩ := sampled_exists_inUse sample
    have hfits : between.Fits := by
      rw [sample.replay]
      exact Context.fits_replay fits_start
    have hdevice : between.deviceBaseline = some device := by
      cases sample
      rfl
    refine rest.inUse_or_lost hfits fun {verdict entries after} hclassify ↦ ⟨channel, ?_, ?_⟩
    · exact hclassify.spec.symm ▸ hinside
    · refine hclassify.isMasked_eq_false hdevice ?_ hinUse
      rw [hmedian, hcount]
      exact ClassifierScalar.not_lt_mul hhot

/-- What the status of a device says about the channels that can be used. -/
structure EndsUsable (settings : Settings R) (mode : Mode) (spec : DeviceSpec)
    (final : Context R) : Prop where
  masked : ∀ cause, final.status = .masked cause →
    (∀ channel < spec.channels, final.mask.isMasked channel = true) ∧
      final.registers = ⟨settings.threshold.thdacMax, List.replicate spec.channels 0,
        List.replicate spec.channels true⟩
  resolved : final.status = .resolved →
    (∃ channel < spec.channels, final.mask.isMasked channel = false) ∨
      mode = .trim ∧ LostAtTrims final

/-- With settings that are accepted, a device is resolved with a channel in use or given up on with
its registers at rest, unless its last channels were masked in settling the trims. -/
theorem devices_end_usable_unless_lost_at_trims [ClassifierScalar R] (bench : Bench σ R)
    (geometry : Geometry) (config : Config R) (hconfig : config.validate = .ok ()) (mode : Mode)
    (spec : DeviceSpec) (link : Link σ) :
    EndsUsable config.settings (mode.onBoard spec.flavor) spec
      (calibrate bench geometry config.settings mode spec link).context := by
  have hhot := (Config.valid_of_validate hconfig).classifier.hotFactor
  obtain ⟨_, _, hcourse⟩ := exists_course bench geometry config.settings mode spec link
  generalize (calibrate bench geometry config.settings mode spec link).context = final at hcourse
  cases hcourse with
  | @resolved _ after stages =>
    have hspec : after.spec = spec :=
      (stages.follows Baseline.permits_any permits_any).spec
    refine ⟨nofun, fun _ ↦ (stages.inUse_or_lost hhot).imp ?_ ?_⟩
    · rintro ⟨channel, hinside, hinUse⟩
      exact ⟨channel, hspec ▸ hinside, hinUse⟩
    · rintro ⟨hmode, hlost⟩
      exact ⟨hmode, hlost.threshold, hlost.out, hlost.settled⟩
  | masked stages =>
    have hgivenUp := stages.givenUp
    refine ⟨fun _ _ ↦ ⟨fun channel hinside ↦ ?_, hgivenUp.registers⟩, nofun⟩
    rw [ChannelMask.isMasked, hgivenUp.reason channel hinside]
    cases ((ChannelMask.new spec.channels).replay _).reason channel <;> rfl

end Calibration

namespace Exact

/-- The settings as a configuration that lists no boards. -/
def config : Config ℚ where
  run := {}
  sampling := settings.sampling
  classifier := Config.defaultLimits
  threshold := settings.threshold
  trim := settings.trim
  minus := {}
  logging := {}
  simulation := {}
  boards := []
  geometry := []

/-- The model behind a link that goes down for good when both channels have a region. -/
def severedBench : Bench Nat ℚ where
  sampling := settings.sampling
  frontEnd :=
    { acquire := fun request calls ↦
        (if calls < 16 then model.acquire request else .error .timeout, calls + 1)
      write := fun _ _ calls ↦ (.ok (), calls) }

def severedRun : Run Nat ℚ :=
  Calibration.calibrate severedBench ⟨[]⟩ settings .trim spec (.new 0)

theorem severed_outcome :
    (fun final : Context ℚ ↦ (final.isResolved, final.registers.thresholdDac,
      [0, 1].map final.mask.isMasked)) severedRun.context = (true, 36, [true, true]) := by
  cbv

theorem severed_masked : ∀ channel < spec.channels,
    severedRun.context.mask.isMasked channel = true := by
  have houtcome := severed_outcome
  generalize severedRun.context = final at houtcome ⊢
  have hmasked : [0, 1].map final.mask.isMasked = [true, true] :=
    (Prod.mk.inj (Prod.mk.inj houtcome).2).2
  intro channel hinside
  have hinside : channel < 2 := hinside
  interval_cases channel <;> simp_all

theorem config_valid : config.validate = .ok () := Check.eq_ok_of_isOk (by decide +kernel)

end Exact

namespace Calibration

theorem devices_end_usable_unless_lost_at_trims_severed :
    Exact.config.validate = .ok () ∧ Exact.severedRun.context.isResolved = true ∧
      LostAtTrims Exact.severedRun.context := by
  have hresolved : Exact.severedRun.context.isResolved = true :=
    congrArg Prod.fst Exact.severed_outcome
  have hends : EndsUsable Exact.config.settings (Mode.trim.onBoard Exact.spec.flavor) Exact.spec
      Exact.severedRun.context :=
    devices_end_usable_unless_lost_at_trims _ _ _ Exact.config_valid _ _ _
  refine ⟨Exact.config_valid, hresolved, ?_⟩
  rcases hends.resolved (Context.status_of_isResolved hresolved) with
    ⟨channel, hinside, hinUse⟩ | hlost
  · exact Bool.noConfusion (hinUse.symm.trans (Exact.severed_masked channel hinside))
  · exact hlost.2

/-- A device whose link goes down while its channels are settled is resolved with all of them
masked, and its register is left where it was solved for. -/
theorem severed_device_is_resolved_without_channels :
    (Exact.config.validate = .ok () ∧ Exact.severedRun.context.isResolved = true ∧
      ∀ channel < Exact.spec.channels, Exact.severedRun.context.mask.isMasked channel = true) ∧
    ¬(Exact.severedRun.context.isResolved = true →
      ∃ channel < Exact.spec.channels, Exact.severedRun.context.mask.isMasked channel = false) ∧
    ¬((∀ channel < Exact.spec.channels, Exact.severedRun.context.mask.isMasked channel = true) →
      Exact.severedRun.context.isFailed = true ∧
        Exact.severedRun.context.registers.thresholdDac = Exact.config.threshold.thdacMax) := by
  have hresolved : Exact.severedRun.context.isResolved = true :=
    congrArg Prod.fst Exact.severed_outcome
  have hdac : Exact.severedRun.context.registers.thresholdDac = 36 :=
    congrArg (fun outcome ↦ outcome.2.1) Exact.severed_outcome
  refine ⟨⟨Exact.config_valid, hresolved, Exact.severed_masked⟩, fun husable ↦ ?_, fun hfailed ↦ ?_⟩
  · obtain ⟨channel, hinside, hinUse⟩ := husable hresolved
    exact Bool.noConfusion (hinUse.symm.trans (Exact.severed_masked channel hinside))
  · have hmax := hdac.symm.trans (hfailed Exact.severed_masked).2
    exact absurd hmax (by decide)

end Calibration

end ThresholdTrim
