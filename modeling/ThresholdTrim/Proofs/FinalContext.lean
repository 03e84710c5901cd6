import ThresholdTrim.Proofs.Course.Calibration

/-!
# The context a calibration ends with

A calibration ends resolved or masked, and which records are filled in then is settled by the mode
and by nothing else. The difficulty is failures in the middle: a second pass may fail when the
first one has entered its trims, and what was entered must not survive.

The stages loop over all channels and give a value to some of them. In each of these loops a
channel has a value just in case its turn leaves it in use (`Chain.isSome_iff_inUse`), and later
turns concern other channels; so the values that are there in the end are those of the channels in
use.
-/

namespace ThresholdTrim

variable {σ R : Type} {context after final : Context R} {channel : Nat} {entries : Journal}

/-! ## Values of the channels in use -/

namespace ChannelMask

variable {α : Type} {mask : ChannelMask} {channels : Nat} {values : List (Option α)}

/-- There is a value for each channel in use, and for no other. -/
def Selects (mask : ChannelMask) (channels : Nat) (values : List (Option α)) : Prop :=
  values.length = channels ∧
    ∀ channel < channels, (values[channel]?.join.isSome = true ↔ mask.isMasked channel = false)

/-- There is a value for each channel in use. -/
def Covers (mask : ChannelMask) (channels : Nat) (values : List (Option α)) : Prop :=
  values.length = channels ∧
    ∀ channel < channels, mask.isMasked channel = false → values[channel]?.join.isSome = true

/-- A channel in use after a stretch of journal was in use before it. -/
theorem isMasked_of_replay (h : (mask.replay entries).isMasked channel = false) :
    mask.isMasked channel = false := by
  rw [← reason_eq_none_iff] at h ⊢
  cases hreason : mask.reason channel with
  | none => rfl
  | some reason => exact nomatch h.symm.trans (reason_replay_of_some hreason)

/-- Values for the channels in use cover those that stay in use. -/
theorem Selects.covers (h : mask.Selects channels values) :
    (mask.replay entries).Covers channels values :=
  ⟨h.1, fun channel hinside hinUse ↦ (h.2 channel hinside).mpr (isMasked_of_replay hinUse)⟩

/-- A list with a known member at each place. -/
theorem eq_map_range {xs : List α} {f : Nat → α} (hlength : xs.length = channels)
    (h : ∀ i < channels, xs[i]? = some (f i)) : xs = (List.range channels).map f := by
  refine List.ext_getElem? fun i ↦ ?_
  rw [List.getElem?_map]
  rcases Nat.lt_or_ge i channels with hi | hi
  · rw [h i hi, List.getElem?_range hi, Option.map_some]
  · rw [List.getElem?_eq_none (by omega), List.getElem?_eq_none (by simpa), Option.map_none]

/-- A count over all channels that leaves out those out of use is one over the channels in use. -/
theorem countP_eq_unmasked {xs : List α} {p : α → Bool} {q : Nat → Bool}
    (hlength : xs.length = mask.reasons.length)
    (h : ∀ i < mask.reasons.length, ∃ x, xs[i]? = some x ∧ p x = (q i && !mask.isMasked i)) :
    xs.countP p = mask.unmasked.countP q := by
  have hmap : xs.map p =
      (List.range mask.reasons.length).map fun i ↦ q i && !mask.isMasked i := by
    refine eq_map_range ((List.length_map _).trans hlength) fun i hi ↦ ?_
    obtain ⟨x, hx, hp⟩ := h i hi
    rw [List.getElem?_map, hx, Option.map_some, hp]
  have hcount := congrArg (List.countP id) hmap
  rw [List.countP_map, List.countP_map] at hcount
  rw [unmasked, List.countP_filter]
  exact hcount

/-- The values there are, in the order of the channels in use. -/
theorem filterMap_eq_unmasked {f : Nat → Option α} (hlength : values.length = mask.reasons.length)
    (h : ∀ i < mask.reasons.length,
      values[i]? = some (if mask.isMasked i then none else f i)) :
    values.filterMap id = mask.unmasked.filterMap f := by
  rw [eq_map_range hlength h, unmasked, List.filterMap_filter, List.filterMap_map]
  congr 1
  funext i
  cases hmasked : mask.isMasked i <;> simp [hmasked]

end ChannelMask

/-- Why a channel that was in use is out of use once it was read, if it is. -/
def reasonAfter {ε α : Type} : Except ε α → Option MaskReason
  | .ok _ => none
  | .error _ => some .noData

/-- When each turn gives its channel a value just in case it leaves it in use, the loop gives
values to the channels in use after it. -/
theorem Chain.isSome_iff_inUse {γ : Type}
    {step : Nat → Context R → Option γ → Journal → Context R → Prop} {values : List (Option γ)}
    {channels : Nat} (h : Chain step (List.range channels) context values entries after)
    (hone : TakesOne id id step) (hplaces : context.mask.reasons.length = channels)
    (hstep : ∀ channel k value own k', channel < k.mask.reasons.length →
      step channel k value own k' → (value.isSome = true ↔ k'.mask.isMasked channel = false)) :
    after.mask.Selects channels values := by
  refine ⟨h.length_eq.trans List.length_range, fun channel hinside ↦ ?_⟩
  obtain ⟨value, before, own, later, k, k', hvalue, _, hown, _, hend, _, hbefore⟩ :=
    h.turn_range hone hinside
  have hplace : k.mask.reasons.length = channels := by
    refine hbefore.preserves (P := fun k : Context R ↦ k.mask.reasons.length = channels)
      (fun x _ k₁ y own k₂ hturn hk₁ ↦ ?_) hplaces
    have hmask : k₂.mask = k₁.mask.replay own := (hone hturn).2
    rw [hmask, ChannelMask.length_reasons_replay]
    exact hk₁
  have hturn := hstep channel k value own k' (hplace ▸ hinside) hown
  dsimp only [id] at hend
  rw [hvalue, ChannelMask.isMasked, hend]
  exact hturn

variable [Scalar R] {bench : Bench σ R} {geometry : Geometry}

/-! ## Baselines -/

namespace Baseline

/-- The record is that of a batch which the channel answered with. -/
def HasRecord (bench : Bench σ R) (spec : DeviceSpec) (entries : Journal) (channel : Nat)
    (record : BaselineRecord R) : Prop :=
  ∃ batch, .reading ⟨spec.key.channel channel, .baseline, bench.sampling.oversampled⟩ (.ok batch)
      ∈ entries ∧
    BaselineRecord.ofBatch batch bench.sampling.pruneCutoffMv spec.flavor = some record

variable {other : Nat} {units : List Unit} {device : DeviceBaseline R}

theorem Visited.length_baselines (h : Visited bench geometry channel context () entries after) :
    after.baselines.length = context.baselines.length := by
  cases h with
  | measured => exact List.length_set
  | unconnected | pruned | failed => rfl

theorem Visited.baselines_of_ne (h : Visited bench geometry other context () entries after)
    (hne : other ≠ channel) : after.baselines[channel]? = context.baselines[channel]? := by
  cases h with
  | measured => exact List.getElem?_set_ne hne
  | unconnected | pruned | failed => rfl

/-- A visit that leaves its channel in use enters the record of a batch it read. -/
theorem Visited.hasRecord (h : Visited bench geometry channel context () entries after)
    (hplace : channel < context.mask.reasons.length) (hinside : channel < context.baselines.length)
    (hinUse : after.mask.isMasked channel = false) :
    ∃ record, after.baselines[channel]? = some record ∧
      HasRecord bench context.spec entries channel record := by
  cases h with
  | unconnected | pruned | failed =>
    exact Bool.noConfusion (hinUse.symm.trans (ChannelMask.isMasked_mask hplace))
  | measured _ acquired hrecord =>
    refine ⟨_, ?_, _, acquired.reading.1, hrecord⟩
    exact List.getElem?_set_self hinside

/-- The visit to one channel. Those before it and after it leave its mask and its baseline alone. -/
theorem visits_turn
    (h : Chain (Visited bench geometry) (List.range context.spec.channels) context units entries
      after) (hinside : channel < context.spec.channels) :
    ∃ before own later k k', entries = before ++ own ++ later ∧
      k = { context.replay before with baselines := k.baselines } ∧
      Visited bench geometry channel k () own k' ∧
      k.mask.reason channel = context.mask.reason channel ∧
      k.baselines[channel]? = context.baselines[channel]? ∧
      after.mask.reason channel = k'.mask.reason channel ∧
      after.baselines[channel]? = k'.baselines[channel]? := by
  have hkeep : ∀ {xs : List Nat} {units entries} {k k' : Context R}, (∀ x ∈ xs, x ≠ channel) →
      Chain (Visited bench geometry) xs k units entries k' →
        k'.mask.reason channel = k.mask.reason channel ∧
          k'.baselines[channel]? = k.baselines[channel]? := by
    intro xs units entries k k' hxs hchain
    refine ⟨hchain.reason_eq visited_takesOne fun x hx ↦ (hxs x hx).symm, ?_⟩
    refine hchain.preserves (P := fun k₁ ↦ k₁.baselines[channel]? = k.baselines[channel]?)
      (fun x hx k₁ _ own k₂ hvisit hk₁ ↦ ?_) rfl
    rw [hvisit.baselines_of_ne (hxs x hx), hk₁]
  have hearlier : ∀ x ∈ (List.range context.spec.channels).take channel, x ≠ channel := by
    intro x hx
    rw [List.take_range, List.mem_range] at hx
    omega
  have hlater : ∀ x ∈ (List.range context.spec.channels).drop (channel + 1), x ≠ channel := by
    intro x hx
    rw [List.range_eq_range', List.drop_range', List.mem_range'] at hx
    omega
  obtain ⟨_, before, own, later, k, k', _, hentries, hbefore, hown, hafter⟩ :=
    h.split (List.getElem?_range hinside)
  obtain ⟨hreason, hbaseline⟩ := hkeep hearlier hbefore
  obtain ⟨hreason', hbaseline'⟩ := hkeep hlater hafter
  exact ⟨before, own, later, k, k', hentries, visits_replay hbefore, hown, hreason, hbaseline,
    hreason', hbaseline'⟩

/-- After the visits, each channel in use has the record of a batch it was read with. -/
theorem visits_hasRecord
    (h : Chain (Visited bench geometry) (List.range context.spec.channels) context units entries
      after) (hfits : context.Fits) (hlength : context.baselines.length = context.spec.channels)
    (hinside : channel < context.spec.channels) (hinUse : after.mask.isMasked channel = false) :
    ∃ record, after.baselines[channel]? = some record ∧
      HasRecord bench context.spec entries channel record := by
  obtain ⟨before, own, later, k, k', rfl, hk, hown, _, hbaseline, hreason', hbaseline'⟩ :=
    visits_turn h hinside
  have hspec : k.spec = context.spec := by
    rw [hk]
    rfl
  have hplace : channel < k.mask.reasons.length := by
    have hreplayed : k.mask.reasons.length = context.mask.reasons.length := by
      rw [hk]
      exact Context.length_reasons_replay
    rw [hreplayed, hfits]
    exact hinside
  have hrecords : channel < k.baselines.length := by
    have hentered : context.baselines[channel]? = some _ :=
      List.getElem?_eq_getElem (hlength.symm ▸ hinside)
    exact (List.getElem?_eq_some_iff.mp (hbaseline.trans hentered)).1
  rw [ChannelMask.isMasked, hreason'] at hinUse
  obtain ⟨record, hrecord, batch, hmem, hbatch⟩ := hown.hasRecord hplace hrecords hinUse
  rw [hspec] at hmem hbatch
  exact ⟨record, hbaseline'.trans hrecord, batch, by simp [hmem], hbatch⟩

/-- Baseline sampling that ends well leaves a record of each channel in use. -/
theorem Sampled.hasRecord (h : Sampled bench geometry context (.ok device) entries after)
    (hfits : context.Fits) (hlength : context.baselines.length = context.spec.channels)
    (hinside : channel < context.spec.channels) (hinUse : after.mask.isMasked channel = false) :
    ∃ record, after.baselines[channel]? = some record ∧
      HasRecord bench context.spec entries channel record := by
  cases h with
  | @measured _ _ after _ visits =>
    have hvisits := visits_hasRecord visits hfits hlength hinside hinUse
    exact hvisits

end Baseline

/-! ## Effective thresholds at mid trim -/

namespace Threshold

variable {settings : ThresholdSettings R} {dac : Nat} {mid : MidTrim R} {eff : Option R}

theorem MidEffRead.isSome_iff (h : MidEffRead bench dac channel context eff entries after)
    (hplace : channel < context.mask.reasons.length) :
    eff.isSome = true ↔ after.mask.isMasked channel = false := by
  cases h with
  | masked hmasked => simp [hmasked]
  | read hmasked => simp [hmasked]
  | failed =>
    have hafter : (context.mask.mask channel .noData).isMasked channel = true :=
      ChannelMask.isMasked_mask hplace
    simp [Context.withMask, hafter]

theorem midEffRead_takesOne : TakesOne id id (MidEffRead bench dac) := by
  intro channel context eff entries after h
  refine ⟨?_, congrArg Context.mask h.replay⟩
  cases h with
  | masked => exact Journal.concerns_nil
  | read _ hlevel => exact hlevel.asks.concerns
  | failed _ hlevel =>
    rw [Journal.concerns_append]
    exact ⟨hlevel.asks.concerns, by simp [Entry.Concerns]⟩

theorem MidMeasured.selects (h : MidMeasured bench dac context (.ok mid) entries after)
    (hfits : context.Fits) : after.mask.Selects context.spec.channels mid.channelEff := by
  cases h with
  | measured channels =>
    exact channels.isSome_iff_inUse midEffRead_takesOne hfits
      fun _ _ _ _ _ hplace hstep ↦ hstep.isSome_iff hplace

/-- A margin check that ends well records a value for each channel in use after it, at whichever
register it ended with. -/
theorem MarginChecked.selects (h : MarginChecked bench settings context (.ok mid) entries after)
    (hfits : context.Fits) :
    ∃ mid, after.mid = some mid ∧ after.mask.Selects context.spec.channels mid.channelEff := by
  cases h with
  | kept _ first => exact ⟨mid, rfl, first.selects hfits⟩
  | raised _ _ _ first _ second =>
    have hbetween := first.replay
    have hsecond := second.selects (hbetween ▸ Context.fits_replay hfits)
    rw [hbetween] at hsecond
    exact ⟨mid, rfl, hsecond⟩

/-- A margin check that ends well leaves a register value, the old one or the raised one. -/
theorem MarginChecked.threshold_isSome
    (h : MarginChecked bench settings context (.ok mid) entries after) :
    after.threshold.isSome = true := by
  cases h with
  | kept hthreshold first =>
    rw [first.replay]
    exact hthreshold ▸ rfl
  | raised => rfl

end Threshold

/-! ## Trims -/

namespace Trim

variable {settings : TrimSettings R} {dac : Nat} {pass : Pass} {deviceEff : R}
  {found : Option (Region R)} {settled : Settled R} {outcome : PassOutcome R}

theorem RegionFound.isSome_iff
    (h : RegionFound bench settings dac channel context found entries after)
    (hplace : channel < context.mask.reasons.length) :
    found.isSome = true ↔ after.mask.isMasked channel = false := by
  cases h with
  | masked hmasked => simp [hmasked]
  | found hmasked => simp [hmasked]
  | failed =>
    have hafter : (context.mask.mask channel .noData).isMasked channel = true :=
      ChannelMask.isMasked_mask hplace
    simp [Context.withMask, hafter]

/-- A channel that had a region just in case it was in use gets a trim just in case it stays so. -/
theorem SettledAs.isSome_iff
    (h : SettledAs bench settings dac pass deviceEff (found, channel) context settled entries after)
    (hplace : channel < context.mask.reasons.length)
    (hfound : found.isSome = true ↔ context.mask.isMasked channel = false) :
    settled.result.isSome = true ↔ after.mask.isMasked channel = false := by
  have hmasked : ∀ reason, (context.mask.mask channel reason).isMasked channel = true :=
    fun reason ↦ ChannelMask.isMasked_mask hplace
  cases h with
  | absent | leftAtMid => exact hfound
  | tried _ settle =>
    cases settle with
    | unread | below => simp [Settled.result, Context.withMask, hmasked]
    | short | aligned => exact hfound

/-- A pass that ends well trims the channels in use after it, and records a value at mid trim for
each of them. -/
theorem PassRun.selects (h : PassRun bench settings dac pass context (.ok outcome) entries after)
    (hfits : context.Fits) :
    after.mask.Selects context.spec.channels after.trims ∧
      ∃ mid, after.mid = some mid ∧ after.mask.Covers context.spec.channels mid.channelEff := by
  cases h with
  | @done regions deviceEff all searches settles between last search _ settle =>
    have hregions : between.mask.Selects context.spec.channels regions :=
      search.isSome_iff_inUse regionFound_takesOne hfits
        fun _ _ _ _ _ hplace hstep ↦ hstep.isSome_iff hplace
    have hlast : last.mask = between.mask.replay settles := by
      rw [settles_replay settle]
      rfl
    have hmid : last.mid = some (midOf regions deviceEff) := by
      rw [settles_replay settle]
      rfl
    have hplace : between.mask.reasons.length = context.spec.channels := by
      rw [regions_replay search]
      exact Context.fits_replay hfits
    have hlength : all.length = context.spec.channels := by
      rw [settle.length_eq, List.length_zipIdx, hregions.1]
    refine ⟨⟨(List.length_map _).trans hlength, fun channel hinside ↦ ?_⟩, _, hmid, ?_⟩
    · obtain ⟨settled, hsettled⟩ : ∃ settled, all[channel]? = some settled :=
        ⟨_, List.getElem?_eq_getElem (hlength.symm ▸ hinside)⟩
      obtain ⟨found, before, own, _, k, k', hfound, _, hk, hstep, hstart, hend, _⟩ :=
        exists_settled settle hsettled
      have hregion := hregions.2 channel hinside
      rw [hfound, Option.join_some, ChannelMask.isMasked, ← hstart] at hregion
      have hinside : channel < k.mask.reasons.length := by
        rw [hk, Context.length_reasons_replay, hplace]
        exact hinside
      have hresult := hstep.isSome_iff hinside hregion
      rw [List.getElem?_map, hsettled, ChannelMask.isMasked, hend]
      exact hresult
    · rw [hlast]
      refine ChannelMask.Selects.covers ⟨?_, fun channel hinside ↦ ?_⟩
      · rw [midOf, List.length_map, hregions.1]
      · rw [← hregions.2 channel hinside, midOf, List.getElem?_map]
        cases regions[channel]? with
        | none => rfl
        | some found => cases found <;> rfl

theorem PassRun.length_trims {result : Except (CalibrationError R) (PassOutcome R)}
    (h : PassRun bench settings dac pass context result entries after) :
    after.trims.length = context.spec.channels := by
  cases h with
  | noRegion search =>
    rw [regions_replay search]
    exact List.length_replicate
  | done search _ settle =>
    rw [List.length_map, settle.length_eq, List.length_zipIdx, search.length_eq, List.length_range]

/-- Trims that end well, in one pass or two, are those of the channels in use. -/
theorem Optimized.selects (h : Optimized bench settings context (.ok ()) entries after)
    (hfits : context.Fits) :
    after.mask.Selects context.spec.channels after.trims ∧
      ∃ mid, after.mid = some mid ∧ after.mask.Covers context.spec.channels mid.channelEff := by
  cases h with
  | once _ first => exact first.selects hfits
  | again _ first _ _ _ second =>
    have hsecond := second.selects (first.fits hfits)
    dsimp only [reentered] at hsecond
    rw [first.spec] at hsecond
    exact hsecond

theorem Optimized.threshold_isSome (h : Optimized bench settings context (.ok ()) entries after) :
    after.threshold.isSome = true := by
  cases h with
  | once hthreshold first =>
    rw [first.replay]
    exact hthreshold ▸ rfl
  | again _ _ _ _ _ second =>
    rw [second.replay]
    rfl

theorem Optimized.length_trims {result : Except (CalibrationError R) Unit}
    (h : Optimized bench settings context result entries after)
    (hlength : context.trims.length = context.spec.channels) :
    after.trims.length = context.spec.channels := by
  cases h with
  | noThreshold => exact hlength
  | firstFailed _ first | once _ first | unrealized _ first => exact first.length_trims
  | secondFailed _ first _ _ _ second | again _ first _ _ _ second =>
    rw [second.length_trims, reentered, first.spec]

end Trim

/-! ## Failing stages -/

namespace Calibration

variable {settings : Settings R} {mode : Mode} {spec : DeviceSpec} {cause : CalibrationError R}
  {run : Run σ R}

/-- One of the stages of a mode fails, and those before it have gone through. -/
inductive StageFails (bench : Bench σ R) (geometry : Geometry) (settings : Settings R)
    (mode : Mode) (cause : CalibrationError R) (run : Run σ R) : Prop
  | sampling (hsample : ((Baseline.sampleAll bench geometry).run run).1 = .error cause) :
    StageFails bench geometry settings mode cause run
  | solving {device : DeviceBaseline R} {verdict : Classification} {sampled classified : Run σ R}
    (hsample : (Baseline.sampleAll bench geometry).run run = (.ok device, sampled))
    (hclassify : (classify settings.classifier).run sampled = (.ok verdict, classified))
    (hmode : mode ≠ .baseline)
    (hsolve : ((Threshold.solve bench settings.threshold).run classified).1 = .error cause) :
    StageFails bench geometry settings mode cause run
  | checking {device : DeviceBaseline R} {verdict : Classification}
    {constants : ThresholdConstants R} {sampled classified solved : Run σ R}
    (hsample : (Baseline.sampleAll bench geometry).run run = (.ok device, sampled))
    (hclassify : (classify settings.classifier).run sampled = (.ok verdict, classified))
    (hmode : mode ≠ .baseline)
    (hsolve : (Threshold.solve bench settings.threshold).run classified = (.ok constants, solved))
    (hcheck : ((Threshold.recheckMargin bench settings.threshold).run
      { solved with context := { solved.context with threshold := some constants } }).1 =
        .error cause) :
    StageFails bench geometry settings mode cause run
  | trimming {device : DeviceBaseline R} {verdict : Classification}
    {constants : ThresholdConstants R} {mid : MidTrim R}
    {sampled classified solved checked : Run σ R}
    (hsample : (Baseline.sampleAll bench geometry).run run = (.ok device, sampled))
    (hclassify : (classify settings.classifier).run sampled = (.ok verdict, classified))
    (hmode : mode = .trim)
    (hsolve : (Threshold.solve bench settings.threshold).run classified = (.ok constants, solved))
    (hcheck : (Threshold.recheckMargin bench settings.threshold).run
      { solved with context := { solved.context with threshold := some constants } } =
        (.ok mid, checked))
    (hoptimize : ((Trim.optimize bench settings.trim).run checked).1 = .error cause) :
    StageFails bench geometry settings mode cause run

/-- The classifier does not fail. -/
theorem exists_verdict (settings : ClassifierSettings R) (run : Run σ R) :
    ∃ verdict, ((classify settings).run run).1 = .ok verdict := by
  obtain ⟨_, _, verdict, hverdict, _⟩ := classify_yields settings run.context run.link
  exact ⟨verdict, hverdict⟩

/-- The stages of a mode fail for what one of them fails for. -/
theorem stages_eq_error_iff :
    ((stages bench geometry settings mode).run run).1 = .error cause ↔
      StageFails bench geometry settings mode cause run := by
  constructor
  · intro h
    rw [stages, run_bind_eq_error_iff] at h
    rcases h with hsample | ⟨device, sampled, hsample, h⟩
    · exact .sampling hsample
    rw [run_bind_eq_error_iff] at h
    rcases h with hclassify | ⟨verdict, classified, hclassify, h⟩
    · obtain ⟨verdict, hverdict⟩ := exists_verdict settings.classifier sampled
      exact nomatch hverdict.symm.trans hclassify
    by_cases hmode : mode = .baseline
    · rw [if_pos hmode] at h
      exact nomatch h
    rw [if_neg hmode, run_bind_eq_error_iff] at h
    rcases h with hsolve | ⟨constants, solved, hsolve, h⟩
    · exact .solving hsample hclassify hmode hsolve
    rw [run_bind_eq_error_iff] at h
    rcases h with hupdate | ⟨_, _, hupdate, h⟩
    · exact nomatch hupdate
    cases hupdate
    rw [run_bind_eq_error_iff] at h
    rcases h with hcheck | ⟨mid, checked, hcheck, h⟩
    · exact .checking hsample hclassify hmode hsolve hcheck
    by_cases hthreshold : mode = .threshold
    · rw [if_pos hthreshold] at h
      exact nomatch h
    rw [if_neg hthreshold] at h
    have htrim : mode = .trim := by cases mode <;> simp_all
    exact .trimming hsample hclassify htrim hsolve hcheck h
  · intro h
    rw [stages, run_bind_eq_error_iff]
    cases h with
    | sampling hsample => exact .inl hsample
    | solving hsample hclassify hmode hsolve =>
      refine .inr ⟨_, _, hsample, run_bind_eq_error_iff.mpr (.inr ⟨_, _, hclassify, ?_⟩)⟩
      rw [if_neg hmode, run_bind_eq_error_iff]
      exact .inl hsolve
    | checking hsample hclassify hmode hsolve hcheck =>
      refine .inr ⟨_, _, hsample, run_bind_eq_error_iff.mpr (.inr ⟨_, _, hclassify, ?_⟩)⟩
      rw [if_neg hmode, run_bind_eq_error_iff]
      refine .inr ⟨_, _, hsolve, run_bind_eq_error_iff.mpr (.inr ⟨(), _, rfl, ?_⟩)⟩
      rw [run_bind_eq_error_iff]
      exact .inl hcheck
    | trimming hsample hclassify hmode hsolve hcheck hoptimize =>
      subst hmode
      refine .inr ⟨_, _, hsample, run_bind_eq_error_iff.mpr (.inr ⟨_, _, hclassify, ?_⟩)⟩
      rw [if_neg nofun, run_bind_eq_error_iff]
      refine .inr ⟨_, _, hsolve, run_bind_eq_error_iff.mpr (.inr ⟨(), _, rfl, ?_⟩)⟩
      rw [run_bind_eq_error_iff]
      refine .inr ⟨_, _, hcheck, ?_⟩
      rw [if_neg nofun]
      exact hoptimize

/-- A calibration ends resolved, unless a stage fails; then it ends masked for what that failed
for. -/
theorem status_calibrate (bench : Bench σ R) (geometry : Geometry) (settings : Settings R)
    (mode : Mode) (spec : DeviceSpec) (link : Link σ) :
    (calibrate bench geometry settings mode spec link).context.status =
      match ((stages bench geometry settings (mode.onBoard spec.flavor)).run
        ⟨link, start settings spec⟩).1 with
      | .ok () => .resolved
      | .error cause => .masked cause := by
  rw [calibrate, ← start]
  rcases (stages bench geometry settings (mode.onBoard spec.flavor)).run
    ⟨link, start settings spec⟩ with ⟨_ | _, _⟩
  · rfl
  · rfl

/-! ## What the stages fill in -/

/-- The records that a calibration in this mode fills in, and those it leaves empty. -/
def FilledFor (channels : Nat) (final : Context R) : Mode → Prop
  | .baseline => final.threshold = none ∧ final.mid = none ∧
      final.trims = List.replicate channels none
  | .threshold => final.threshold.isSome = true ∧ final.trims = List.replicate channels none ∧
      ∃ mid, final.mid = some mid ∧ final.mask.Selects channels mid.channelEff
  | .trim => final.threshold.isSome = true ∧ final.mask.Selects channels final.trims ∧
      ∃ mid, final.mid = some mid ∧ final.mask.Covers channels mid.channelEff

/-- Classification, threshold and trims on top of the baselines. -/
theorem Continued.filledFor (h : Continued bench settings mode context (.ok ()) entries after)
    (hfits : context.Fits) (hthreshold : context.threshold = none) (hmid : context.mid = none)
    (htrims : context.trims = List.replicate context.spec.channels none) :
    FilledFor context.spec.channels after mode := by
  cases h with
  | baseline hmode classify =>
    subst hmode
    rw [classify.replay]
    exact ⟨hthreshold, hmid, htrims⟩
  | threshold hmode classify _ check =>
    subst hmode
    have hmid := check.selects (classify.fits hfits)
    dsimp only at hmid
    rw [classify.spec] at hmid
    refine ⟨check.threshold_isSome, ?_, hmid⟩
    rw [check.replay, classify.replay]
    exact htrims
  | trim hmode classify _ check optimize =>
    subst hmode
    have htrims := optimize.selects (check.fits (classify.fits hfits))
    rw [check.spec] at htrims
    dsimp only at htrims
    rw [classify.spec] at htrims
    exact ⟨optimize.threshold_isSome, htrims⟩

/-- The stages after baseline sampling leave the device baseline alone. -/
theorem Continued.deviceBaseline {result : Except (CalibrationError R) Unit}
    (h : Continued bench settings mode context result entries after) :
    after.deviceBaseline = context.deviceBaseline := by
  cases h with
  | baseline _ classify | unsolved _ classify =>
    rw [classify.replay]
    rfl
  | unchecked _ classify _ check | threshold _ classify _ check =>
    rw [check.replay, classify.replay]
    rfl
  | trim _ classify _ check optimize =>
    rw [optimize.replay, check.replay, classify.replay]
    rfl

theorem Continued.classification (h : Continued bench settings mode context (.ok ()) entries after)
    {device : DeviceBaseline R} (hdevice : context.deviceBaseline = some device) :
    after.classification.isSome = true := by
  have hclassified : ∀ {verdict entries after},
      Classified settings.classifier context verdict entries after →
        after.classification.isSome = true := by
    intro verdict entries after h
    cases h with
    | nothing hnone => exact nomatch hnone.symm.trans hdevice
    | judged => rfl
  cases h with
  | baseline _ classify => exact hclassified classify
  | threshold _ classify _ check =>
    have hbetween := hclassified classify
    rw [check.replay]
    exact hbetween
  | trim _ classify _ check optimize =>
    have hbetween := hclassified classify
    rw [optimize.replay, check.replay]
    exact hbetween

/-- Only the trim stage makes a second pass. -/
theorem Continued.secondPass {result : Except (CalibrationError R) Unit}
    (h : Continued bench settings mode context result entries after) (hmode : mode ≠ .trim) :
    after.secondPass = context.secondPass := by
  cases h with
  | baseline _ classify | unsolved _ classify =>
    rw [classify.replay]
    rfl
  | unchecked _ classify _ check | threshold _ classify _ check =>
    rw [check.replay, classify.replay]
    rfl
  | trim htrim => exact absurd htrim hmode

theorem Continued.length_trims {result : Except (CalibrationError R) Unit}
    (h : Continued bench settings mode context result entries after)
    (hlength : context.trims.length = context.spec.channels) :
    after.trims.length = context.spec.channels := by
  cases h with
  | baseline _ classify | unsolved _ classify =>
    rw [classify.replay]
    exact hlength
  | unchecked _ classify _ check | threshold _ classify _ check =>
    rw [check.replay, classify.replay]
    exact hlength
  | @trim _ _ _ _ _ _ _ _ _ checked _ _ classify _ check optimize =>
    have hchecked : checked.trims = context.trims ∧ checked.spec = context.spec := by
      rw [check.replay, classify.replay]
      exact ⟨rfl, rfl⟩
    rw [← hchecked.2]
    apply optimize.length_trims
    rw [hchecked.1, hchecked.2]
    exact hlength

/-! ## Whole runs -/

/-- Only a calibration with trims makes a second pass, whether it ends well or not. -/
theorem Staged.secondPass {result : Except (CalibrationError R) Unit}
    (h : Staged bench geometry settings mode (start settings spec) result entries after)
    (hmode : mode ≠ .trim) : after.secondPass = false := by
  cases h with
  | unmeasured sample =>
    rw [sample.replay]
    rfl
  | measured sample rest =>
    rw [rest.secondPass hmode, sample.replay]
    rfl

theorem Staged.length_trims {result : Except (CalibrationError R) Unit}
    (h : Staged bench geometry settings mode (start settings spec) result entries after) :
    after.trims.length = spec.channels := by
  have hsampled : ∀ {result entries after},
      Baseline.Sampled bench geometry (start settings spec) result entries after →
        after.trims.length = spec.channels ∧ after.spec = spec := by
    intro result entries after h
    rw [h.replay]
    exact ⟨List.length_replicate, rfl⟩
  cases h with
  | unmeasured sample => exact (hsampled sample).1
  | @measured _ _ _ _ between _ sample rest =>
    obtain ⟨hlength, hspec⟩ := hsampled sample
    have hafter := rest.length_trims (hlength.trans (congrArg DeviceSpec.channels hspec.symm))
    rw [hafter, hspec]

/-- What is left of a device that was given up on: nothing but the masks, with those entered before
the failure kept. -/
structure GivenUp (settings : Settings R) (spec : DeviceSpec) (entries : Journal)
    (final : Context R) : Prop where
  reason : ∀ channel < spec.channels, final.mask.reason channel =
    (((ChannelMask.new spec.channels).replay entries).reason channel <|> some .deviceFailed)
  threshold : final.threshold = none
  trims : final.trims = List.replicate spec.channels none
  registers : final.registers = ⟨settings.threshold.thdacMax, List.replicate spec.channels 0,
    List.replicate spec.channels true⟩

/-- What is known of a device that was resolved. -/
structure Resolved (bench : Bench σ R) (mode : Mode) (spec : DeviceSpec) (entries : Journal)
    (final : Context R) : Prop where
  deviceBaseline : final.deviceBaseline.isSome = true
  classification : final.classification.isSome = true
  baseline : ∀ channel < spec.channels, final.mask.isMasked channel = false →
    ∃ record, final.baselines[channel]? = some record ∧
      Baseline.HasRecord bench spec entries channel record
  filled : FilledFor spec.channels final mode

theorem Staged.givenUp
    (h : Staged bench geometry settings mode (start settings spec) (.error cause) entries after) :
    GivenUp settings spec (entries ++ [.notice .deviceMasked]) (after.fail cause) := by
  have hfollows : (start settings spec).Follows .any entries after :=
    h.follows Baseline.permits_any permits_any
  have hfits : after.Fits := hfollows.fits fits_start
  have hspec : after.spec = spec := hfollows.spec
  refine ⟨fun channel hinside ↦ ?_, rfl, ?_, ?_⟩
  · have hplace : channel < after.mask.reasons.length := by
      rw [hfits, hspec]
      exact hinside
    rw [Context.fail, ChannelMask.reason_maskAll, if_pos hplace, hfollows.mask,
      ChannelMask.replay_append]
    rfl
  · rw [Context.fail, List.map_const', h.length_trims]
  · rw [Context.registers_fail hfits, hfollows.thdacMax, hspec]
    rfl

theorem Staged.resolved
    (h : Staged bench geometry settings mode (start settings spec) (.ok ()) entries after) :
    Resolved bench mode spec entries { after with status := .resolved } := by
  cases h with
  | @measured device _ sampling later between _ sample rest =>
    have hsampled : between = _ := sample.replay
    have hfollows : (start settings spec).Follows .any sampling between :=
      sample.follows Baseline.permits_any fun channel _ ↦ isMasked_start channel
    have hfits : between.Fits := hfollows.fits fits_start
    have hspec : between.spec = spec := hfollows.spec
    have hdevice : between.deviceBaseline = some device := by
      cases sample
      rfl
    refine ⟨?_, rest.classification hdevice, fun channel hinside hinUse ↦ ?_, ?_⟩
    · rw [rest.deviceBaseline, hdevice]
      rfl
    · have hrest : between.Follows .any later after :=
        rest.follows permits_any hfits hfollows.thdacMax hfollows.trimMid
      have hinUse : between.mask.isMasked channel = false :=
        ChannelMask.isMasked_of_replay (hrest.mask ▸ hinUse)
      obtain ⟨record, hrecord, batch, hmem, hbatch⟩ :=
        sample.hasRecord fits_start List.length_replicate hinside hinUse
      refine ⟨record, ?_, batch, List.mem_append_left _ hmem, hbatch⟩
      rw [rest.baselines]
      exact hrecord
    · have hfilled := rest.filledFor hfits (by rw [hsampled]; rfl) (by rw [hsampled]; rfl)
        (by rw [hsampled]; rfl)
      rw [hspec] at hfilled
      cases mode <;> exact hfilled

/-- How a calibration ends: the status says whether a stage failed, and with the mode it says what
is filled in. -/
structure EndsInShape (bench : Bench σ R) (geometry : Geometry) (settings : Settings R)
    (mode : Mode) (run : Run σ R) (entries : Journal) (final : Context R) : Prop where
  status : final.status = .resolved ∨ ∃ cause, final.status = .masked cause
  masked_iff : ∀ cause, final.status = .masked cause ↔
    StageFails bench geometry settings mode cause run
  givenUp : ∀ cause, final.status = .masked cause →
    GivenUp settings run.context.spec entries final
  resolved : final.status = .resolved → Resolved bench mode run.context.spec entries final
  secondPass : mode ≠ .trim → final.secondPass = false

/-- The final context has the shape its status and mode promise, whatever the front-end answers. -/
theorem final_context_has_promised_shape (bench : Bench σ R) (geometry : Geometry)
    (settings : Settings R) (mode : Mode) (spec : DeviceSpec) (link : Link σ) :
    ∃ entries, (calibrate bench geometry settings mode spec link).link.journal =
        link.journal ++ entries ∧
      EndsInShape bench geometry settings (mode.onBoard spec.flavor) ⟨link, start settings spec⟩
        entries (calibrate bench geometry settings mode spec link).context := by
  have hstatus := status_calibrate bench geometry settings mode spec link
  have hmasked : ∀ cause,
      (calibrate bench geometry settings mode spec link).context.status = .masked cause ↔
        StageFails bench geometry settings (mode.onBoard spec.flavor) cause
          ⟨link, start settings spec⟩ := by
    intro cause
    rw [hstatus, ← stages_eq_error_iff]
    split
    · rename_i hok
      simp [hok]
    · rename_i hfails
      simp [hfails]
  obtain ⟨entries, hjournal, hcourse⟩ := exists_course bench geometry settings mode spec link
  refine ⟨entries, hjournal, ?_⟩
  generalize (calibrate bench geometry settings mode spec link).context = final at hmasked hcourse
  cases hcourse with
  | resolved stages =>
    exact ⟨.inl rfl, hmasked, nofun, fun _ ↦ stages.resolved, fun hmode ↦ stages.secondPass hmode⟩
  | masked stages =>
    exact ⟨.inr ⟨_, rfl⟩, hmasked, fun _ _ ↦ stages.givenUp, nofun,
      fun hmode ↦ stages.secondPass hmode⟩

end Calibration

end ThresholdTrim
