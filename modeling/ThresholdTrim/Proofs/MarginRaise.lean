import ThresholdTrim.Proofs.FinalContext
import ThresholdTrim.Proofs.Exact

/-!
# The margin check raises once or not at all

The check sweeps over the channels in use at mid trim, and when the device as a whole lies too low
it raises the register and sweeps again, over the channels that are left. A sweep takes each channel
by itself: it reads it once, and masks it just in case it does not answer (`Sweep.Takes`). What two
sweeps do to the mask is put together from that.

Between the sweeps nothing is written, and the level at the raised register is read before the
register is. So a failure, wherever it comes, leaves everything but the mask as it was.
-/

namespace ThresholdTrim

open Scalar Statistics Sampler

variable {σ R : Type} {channel : Nat} {entries : Journal}

namespace Threshold

/-! ## Sweeps -/

/-- One sweep over the channels in use: what each of them answered at the register value. -/
structure Sweep (R : Type) where
  dac : Nat
  level : Nat → Except (CalibrationError R) R
  entries : Journal

namespace Sweep

/-- Whether the channel did not answer. -/
def fails (sweep : Sweep R) (channel : Nat) : Bool := !(sweep.level channel).isOk

/-- The channels that answered. -/
def answering (sweep : Sweep R) (channels : List Nat) : List Nat :=
  channels.filter fun channel ↦ !sweep.fails channel

variable [Scalar R]

/-- The effective threshold of a channel that answered. -/
def eff (sweep : Sweep R) (context : Context R) (channel : Nat) : Option R :=
  (sweep.level channel).toOption.map (· - (context.baseline channel).median)

/-- The channels are read at mid trim, each once as far as the sampler goes, and no others are. -/
structure Covers (sweep : Sweep R) (bench : Bench σ R) (context : Context R)
    (channels : List Nat) : Prop where
  own : ∀ channel ∈ channels, ∃ own : Journal, own <:+: sweep.entries ∧
    sweep.entries.readingsOf channel = own.readings ∧
    LevelRead bench (context.channelKey channel) (.threshold sweep.dac context.trimMid)
      (sweep.level channel) own
  others : ∀ channel ∉ channels, sweep.entries.readingsOf channel = []

/-- The summary of a sweep; there is none when no channel answered. -/
structure Gives (sweep : Sweep R) (context : Context R) (channels : List Nat)
    (summary : Except (CalibrationError R) (MidTrim R)) : Prop where
  deviceEff : scalarMedian (channels.filterMap (sweep.eff context)) =
    summary.toOption.map (·.deviceEff)
  channelEff : ∀ mid, summary = .ok mid → ∀ channel, mid.channelEff[channel]?.join =
    if channel ∈ channels then sweep.eff context channel else none

/-- A sweep over the channels in use masks those that do not answer and leaves the others alone. -/
structure Takes (sweep : Sweep R) (bench : Bench σ R) (context after : Context R) : Prop where
  covers : sweep.Covers bench context context.mask.unmasked
  masked : ∀ channel ∈ context.mask.unmasked,
    after.mask.reason channel = reasonAfter (sweep.level channel)
  others : ∀ channel ∉ context.mask.unmasked,
    after.mask.reason channel = context.mask.reason channel
  places : after.mask.reasons.length = context.mask.reasons.length

end Sweep

variable [Scalar R] {bench : Bench σ R} {settings : ThresholdSettings R} {dac : Nat}
  {context between after : Context R} {sweep again : Sweep R} {mid : MidTrim R}

/-- The channels left after a sweep are those that answered. -/
theorem Sweep.Takes.unmasked (h : sweep.Takes bench context after) :
    after.mask.unmasked = sweep.answering context.mask.unmasked := by
  rw [Sweep.answering, ChannelMask.unmasked, ChannelMask.unmasked, h.places, List.filter_filter]
  refine List.filter_congr fun channel hmem ↦ ?_
  have hplace : channel < context.mask.reasons.length := List.mem_range.mp hmem
  cases hmasked : context.mask.isMasked channel with
  | true =>
    have hout : channel ∉ context.mask.unmasked := fun hinUse ↦
      Bool.noConfusion (hmasked.symm.trans (ChannelMask.mem_unmasked_iff.mp hinUse).2)
    rw [ChannelMask.isMasked, h.others channel hout, ← ChannelMask.isMasked, hmasked]
    simp
  | false =>
    have hreason := h.masked channel (ChannelMask.mem_unmasked_iff.mpr ⟨hplace, hmasked⟩)
    rw [ChannelMask.isMasked, hreason, Sweep.fails]
    cases sweep.level channel <;> rfl

theorem Sweep.Gives.isSome_iff (h : sweep.Gives context context.mask.unmasked (.ok mid))
    (htakes : sweep.Takes bench context after) :
    mid.channelEff[channel]?.join.isSome = true ↔ channel ∈ after.mask.unmasked := by
  rw [htakes.unmasked, Sweep.answering, List.mem_filter, h.channelEff mid rfl, Sweep.eff,
    Sweep.fails]
  by_cases hmem : channel ∈ context.mask.unmasked
  · cases hlevel : sweep.level channel with
    | ok => simp [hmem, Except.toOption, Except.isOk, Except.toBool]
    | error => simp [hmem, Except.toOption, Except.isOk, Except.toBool]
  · simp [hmem]

/-! ## One channel of a sweep -/

variable {effs : List (Option R)}

theorem exists_measured
    (h : Chain (MidEffRead bench dac) (List.range context.spec.channels) context effs entries after)
    (hfits : context.Fits) (hmem : channel ∈ context.mask.unmasked) :
    ∃ level, (∃ own : Journal, own <:+: entries ∧ entries.readingsOf channel = own.readings ∧
        LevelRead bench (context.channelKey channel) (.threshold dac context.trimMid) level own) ∧
      effs[channel]? = some (level.toOption.map (· - (context.baseline channel).median)) ∧
      after.mask.reason channel = reasonAfter level := by
  obtain ⟨eff, before, _, own, heff, hown, hreadings, hstep, hplace, hnone, hend⟩ :=
    h.own_turn_inUse midEffRead_takesOne (fun _ _ _ _ _ hstep ↦ hstep.replay) hfits hmem
  cases hstep with
  | masked hmasked =>
    rw [ChannelMask.isMasked, hnone] at hmasked
    cases hmasked
  | read _ hlevel => exact ⟨_, ⟨own, hown, hreadings, hlevel⟩, heff, hend.trans hnone⟩
  | @failed cause seen _ hlevel =>
    refine ⟨_, ⟨seen, ?_, ?_, hlevel⟩, heff, hend.trans ?_⟩
    · exact (List.prefix_append _ _).isInfix.trans hown
    · rw [hreadings, Journal.readings_append]
      exact List.append_nil _
    · exact ChannelMask.reason_mask_self hplace hnone

/-- A channel out of use is passed over. -/
theorem passed_over
    (h : Chain (MidEffRead bench dac) (List.range context.spec.channels) context effs entries after)
    (hfits : context.Fits) (hmem : channel ∉ context.mask.unmasked) :
    effs[channel]?.join = none ∧ entries.readingsOf channel = [] ∧
      after.mask.reason channel = context.mask.reason channel := by
  rcases Nat.lt_or_ge channel context.spec.channels with hinside | hbeyond
  · have hmasked : context.mask.isMasked channel = true := by
      by_contra hinUse
      exact hmem (ChannelMask.mem_unmasked_iff.mpr ⟨hfits ▸ hinside, Bool.eq_false_iff.mpr hinUse⟩)
    obtain ⟨eff, _, _, own, heff, hreadings, hstep, hmasked, hstart, hend⟩ :=
      h.own_turn_outOfUse midEffRead_takesOne hinside hmasked
    cases hstep with
    | masked => exact ⟨by rw [heff]; rfl, hreadings, hend.trans hstart⟩
    | read hinUse | failed hinUse => exact Bool.noConfusion (hinUse.symm.trans hmasked)
  · have hfresh : ∀ other ∈ List.range context.spec.channels, channel ≠ id other := by
      rintro other hother rfl
      exact Nat.not_lt.mpr hbeyond (List.mem_range.mp hother)
    refine ⟨?_, Journal.readingsOf_eq_nil (h.requests_ne midEffRead_takesOne hfresh),
      h.reason_eq midEffRead_takesOne hfresh⟩
    rw [List.getElem?_eq_none]
    · rfl
    · rwa [h.length_eq, List.length_range]

theorem MidMeasured.exists_sweep {result : Except (CalibrationError R) (MidTrim R)}
    (h : MidMeasured bench dac context result entries after) (hfits : context.Fits) :
    ∃ level, Sweep.Takes ⟨dac, level, entries⟩ bench context after ∧
      Sweep.Gives ⟨dac, level, entries⟩ context context.mask.unmasked result := by
  obtain ⟨effs, hchannels, hmedian, hresult⟩ : ∃ effs,
      Chain (MidEffRead bench dac) (List.range context.spec.channels) context effs entries after ∧
        scalarMedian (effs.filterMap id) = result.toOption.map (·.deviceEff) ∧
          ∀ mid, result = .ok mid → mid.channelEff = effs := by
    cases h with
    | noData channels hmedian => exact ⟨_, channels, hmedian, nofun⟩
    | measured channels hmedian =>
      refine ⟨_, channels, hmedian, ?_⟩
      rintro _ ⟨⟩
      rfl
  have : Nonempty (Except (CalibrationError R) R) := ⟨.error .noData⟩
  choose! level hlevel using fun channel (hmem : channel ∈ context.mask.unmasked) ↦
    exists_measured hchannels hfits hmem
  have hpassed := fun channel (hout : channel ∉ context.mask.unmasked) ↦
    passed_over hchannels hfits hout
  have htakes : Sweep.Takes ⟨dac, level, entries⟩ bench context after := {
    covers := ⟨fun channel hmem ↦ (hlevel channel hmem).1,
      fun channel hout ↦ (hpassed channel hout).2.1⟩
    masked := fun channel hmem ↦ (hlevel channel hmem).2.2
    others := fun channel hout ↦ (hpassed channel hout).2.2
    places := by rw [h.replay, Context.length_reasons_replay] }
  refine ⟨level, htakes, ?_, fun mid hmid channel ↦ ?_⟩
  · have hplaces : effs.length = context.mask.reasons.length := by
      rw [hchannels.length_eq, List.length_range, hfits]
    rw [← hmedian]
    congr 1
    refine (ChannelMask.filterMap_eq_unmasked hplaces fun channel hplace ↦ ?_).symm
    cases hmasked : context.mask.isMasked channel with
    | true =>
      have hout := (hpassed channel fun hmem ↦
        Bool.noConfusion (hmasked.symm.trans (ChannelMask.mem_unmasked_iff.mp hmem).2)).1
      rw [List.getElem?_eq_getElem (hplaces ▸ hplace)] at hout ⊢
      exact congrArg some hout
    | false =>
      exact (hlevel channel (ChannelMask.mem_unmasked_iff.mpr ⟨hplace, hmasked⟩)).2.1
  · rw [hresult mid hmid]
    by_cases hmem : channel ∈ context.mask.unmasked
    · rw [if_pos hmem, (hlevel channel hmem).2.1]
      rfl
    · rw [if_neg hmem, (hpassed channel hmem).1]

/-! ## The raised register -/

theorem raised_raisedForMargin [RaisingScalar R] {constants : ThresholdConstants R}
    {device : DeviceBaseline R} {thdacMax : Nat} (hdac : constants.dac ≤ thdacMax)
    (htop : thdacMax ≤ maxRegister) :
    Raised constants.dac (raisedForMargin constants device thdacMax) thdacMax := by
  have hold : constants.dac ≤ maxRegister := Nat.le_trans hdac htop
  have hone : (1 : Nat) ≤ maxRegister := by decide
  have hbump : ∀ n ≤ 1,
      lt (larger (round (device.rms / constants.slope)) (ofCount 1 : R)) (ofCount n) = false :=
    fun n hn ↦ RaisingScalar.not_lt_mono hn hone <| RaisingScalar.not_lt_of_le <|
      RaisingScalar.le_larger _ (RegisterScalar.ofCount_le le_rfl hone)
  refine raised_toNat_smaller hdac htop ?_ fun hnext ↦ ?_
  · exact RaisingScalar.not_lt_add hold (not_lt_ofCount hold) (hbump 0 zero_le_one)
  · exact RaisingScalar.not_lt_add hnext (not_lt_ofCount hold) (hbump 1 le_rfl)

/-! ## One sweep or two -/

/-- What the sweeps leave in the journal. -/
def sweepsJournal (first : Sweep R) (second : Option (Sweep R)) : Journal :=
  first.entries ++ second.elim [] fun again ↦ .notice .raisingForMargin :: again.entries

/-- A second sweep is over the channels the first one left, at the raised register. -/
structure SweptAgain (bench : Bench σ R) (context : Context R) (raised : Nat)
    (first again : Sweep R) : Prop where
  dac : again.dac = raised
  covers : again.Covers bench context (first.answering context.mask.unmasked)

/-- One sweep or two: a channel that was in use is masked just in case it did not answer in one of
them. -/
structure Swept (bench : Bench σ R) (context : Context R) (dac raised : Nat) (after : Context R)
    (first : Sweep R) (second : Option (Sweep R)) : Prop where
  dac : first.dac = dac
  covers : first.Covers bench context context.mask.unmasked
  again : ∀ again, second = some again → SweptAgain bench context raised first again
  masked : ∀ channel ∈ context.mask.unmasked, after.mask.reason channel =
    if first.fails channel || second.any (·.fails channel) then some .noData else none
  others : ∀ channel ∉ context.mask.unmasked,
    after.mask.reason channel = context.mask.reason channel

variable {first : Sweep R} {raised : Nat}

omit [Scalar R] in
theorem Sweep.reasonAfter_level (sweep : Sweep R) (channel : Nat) :
    reasonAfter (sweep.level channel) = if sweep.fails channel then some .noData else none := by
  rw [Sweep.fails]
  cases sweep.level channel <;> rfl

theorem Swept.of_mask {second : Option (Sweep R)} {other : Context R}
    (h : Swept bench context dac raised after first second) (hmask : other.mask = after.mask) :
    Swept bench context dac raised other first second :=
  { h with
    masked := hmask ▸ h.masked
    others := hmask ▸ h.others }

theorem Sweep.Takes.swept (h : first.Takes bench context after) (hdac : first.dac = dac) :
    Swept bench context dac raised after first none where
  dac := hdac
  covers := h.covers
  again := nofun
  masked channel hmem := by
    rw [h.masked channel hmem, first.reasonAfter_level, Option.any_none, Bool.or_false]
  others := h.others

theorem Sweep.Takes.swept_again {entries : Journal} (h : first.Takes bench context between)
    (hbetween : between = context.replay entries) (hagain : again.Takes bench between after)
    (hdac : first.dac = dac) (hraised : again.dac = raised) :
    Swept bench context dac raised after first (some again) where
  dac := hdac
  covers := h.covers
  again := by
    rintro _ ⟨⟩
    refine ⟨hraised, ?_⟩
    rw [← h.unmasked]
    have hcovers := hagain.covers
    subst hbetween
    exact ⟨hcovers.own, hcovers.others⟩
  masked channel hmem := by
    cases hfails : first.fails channel with
    | true =>
      have hout : channel ∉ between.mask.unmasked := by
        simp [h.unmasked, Sweep.answering, hfails]
      rw [hagain.others channel hout, h.masked channel hmem, first.reasonAfter_level, hfails]
      rfl
    | false =>
      have hleft : channel ∈ between.mask.unmasked := by
        simpa [h.unmasked, Sweep.answering, hfails] using hmem
      rw [hagain.masked channel hleft, again.reasonAfter_level, Option.any_some, Bool.false_or]
  others channel hout := by
    have hgone : channel ∉ between.mask.unmasked := by
      simp [h.unmasked, Sweep.answering, hout]
    rw [hagain.others channel hgone, h.others channel hout]

/-! ## The check -/

/-- How a check that ends well leaves the register, with the summary it gives. -/
inductive Settles (bench : Bench σ R) (settings : ThresholdSettings R) (context : Context R)
    (constants : ThresholdConstants R) (mid : MidTrim R) (after : Context R) (first : Sweep R) :
    Option (Sweep R) → Journal → Prop
  | kept (summary : first.Gives context context.mask.unmasked (.ok mid))
    (hmargin : lt mid.deviceEff (context.spec.flavor.toCounts settings.minMarginMv) = false)
    (hthreshold : after.threshold = context.threshold) :
    Settles bench settings context constants mid after first none []
  | raised {again : Sweep R} {early : MidTrim R} {realized : R} {probe : Nat} {last : Journal}
    (hfirst : first.Gives context context.mask.unmasked (.ok early))
    (hmargin : lt early.deviceEff (context.spec.flavor.toCounts settings.minMarginMv) = true)
    (summary : again.Gives context (first.answering context.mask.unmasked) (.ok mid))
    (hraised : Raised constants.dac again.dac settings.thdacMax)
    (hprobe : after.mask.unmasked.head? = some probe)
    (hlevel : LevelRead bench (context.channelKey probe) (.threshold again.dac context.trimMid)
      (.ok realized) last)
    (hthreshold : after.threshold = some { constants with dac := again.dac, realized }) :
    Settles bench settings context constants mid after first (some again)
      (last ++ (marginNotices settings context.spec.flavor mid).map .notice)

/-- How a check fails: a sweep finds no channel that answers, or the level at the raised register
cannot be read. There is a second sweep only where the first one misses the margin. -/
inductive Fails (bench : Bench σ R) (settings : ThresholdSettings R) (context : Context R)
    (after : Context R) (first : Sweep R) :
    Option (Sweep R) → Journal → CalibrationError R → Prop
  | unmeasured (hfirst : first.Gives context context.mask.unmasked (.error .noData)) :
    Fails bench settings context after first none [] .noData
  | unmeasuredAgain {again : Sweep R} {early : MidTrim R}
    (hfirst : first.Gives context context.mask.unmasked (.ok early))
    (hmargin : lt early.deviceEff (context.spec.flavor.toCounts settings.minMarginMv) = true)
    (hagain : again.Gives context (first.answering context.mask.unmasked) (.error .noData)) :
    Fails bench settings context after first (some again) [] .noData
  | unrealized {again : Sweep R} {early late : MidTrim R} {cause : CalibrationError R}
    {last : Journal} (hfirst : first.Gives context context.mask.unmasked (.ok early))
    (hmargin : lt early.deviceEff (context.spec.flavor.toCounts settings.minMarginMv) = true)
    (hagain : again.Gives context (first.answering context.mask.unmasked) (.ok late))
    (hlevel : RealizedRead bench again.dac after (.error cause) last) :
    Fails bench settings context after first (some again) last cause

/-- A check gives the summary of its last sweep, or changes nothing but the mask. -/
def EndsAs (bench : Bench σ R) (settings : ThresholdSettings R) (context : Context R)
    (constants : ThresholdConstants R) (after : Context R) (first : Sweep R)
    (second : Option (Sweep R)) (rest : Journal) :
    Except (CalibrationError R) (MidTrim R) → Prop
  | .error cause => after = context.withMask after.mask ∧
      Fails bench settings context after first second rest cause
  | .ok mid =>
    after = { context.withMask after.mask with threshold := after.threshold, mid := some mid } ∧
      (∀ channel, mid.channelEff[channel]?.join.isSome = true ↔
        channel ∈ after.mask.unmasked) ∧
      Settles bench settings context constants mid after first second rest

/-- The second sweep, told by the context before the first. -/
theorem MidMeasured.exists_again {result : Except (CalibrationError R) (MidTrim R)}
    (h : MidMeasured bench raised between result entries after) (hfits : context.Fits)
    (hfirst : first.Takes bench context between)
    (hbetween : between = context.replay first.entries) :
    ∃ level, Sweep.Takes ⟨raised, level, entries⟩ bench between after ∧
      Sweep.Gives ⟨raised, level, entries⟩ context (first.answering context.mask.unmasked) result ∧
      ∀ mid, result = .ok mid → ∀ channel,
        (mid.channelEff[channel]?.join.isSome = true ↔ channel ∈ after.mask.unmasked) := by
  have hfits' : between.Fits := hbetween ▸ Context.fits_replay hfits
  obtain ⟨level, htakes, hgives⟩ := h.exists_sweep hfits'
  refine ⟨level, htakes, ?_, ?_⟩
  · rw [← hfirst.unmasked]
    subst hbetween
    exact ⟨hgives.deviceEff, hgives.channelEff⟩
  · rintro mid rfl channel
    exact hgives.isSome_iff htakes

theorem MarginChecked.exists_sweeps [RaisingScalar R] {constants : ThresholdConstants R}
    {device : DeviceBaseline R} {result : Except (CalibrationError R) (MidTrim R)}
    (h : MarginChecked bench settings context result entries after) (hfits : context.Fits)
    (hthreshold : context.threshold = some constants)
    (hdevice : context.deviceBaseline = some device) (hdac : constants.dac ≤ settings.thdacMax)
    (htop : settings.thdacMax ≤ maxRegister) :
    ∃ first second rest, entries = sweepsJournal first second ++ rest ∧
      Swept bench context constants.dac (raisedForMargin constants device settings.thdacMax) after
        first second ∧
      EndsAs bench settings context constants after first second rest result := by
  cases h with
  | noThreshold hnone => exact nomatch hnone.symm.trans hthreshold
  | noBaseline hnone => exact nomatch hnone.symm.trans hdevice
  | @unmeasured own _ _ _ hown sweep =>
    obtain rfl : own = constants := Option.some.inj (hown.symm.trans hthreshold)
    obtain rfl := sweep.eq_noData
    obtain ⟨level, htakes, hgives⟩ := sweep.exists_sweep hfits
    refine ⟨_, none, [], ?_, htakes.swept rfl, ?_, .unmeasured hgives⟩
    · simp [sweepsJournal]
    · rw [sweep.replay]
      rfl
  | @kept own mid _ after hown sweep hmargin =>
    obtain rfl : own = constants := Option.some.inj (hown.symm.trans hthreshold)
    obtain ⟨level, htakes, hgives⟩ := sweep.exists_sweep hfits
    have hsome : ∀ channel, mid.channelEff[channel]?.join.isSome = true ↔
        channel ∈ after.mask.unmasked := fun _ ↦ hgives.isSome_iff htakes
    have hafter : after = context.withMask after.mask := by
      rw [sweep.replay]
      rfl
    refine ⟨_, none, [], ?_, (htakes.swept rfl).of_mask rfl, ?_, hsome, .kept hgives hmargin ?_⟩
    · simp [sweepsJournal]
    · rw [hafter]
      rfl
    · rw [hafter]
      rfl
  | @unmeasuredAgain own other _ _ _ _ _ _ hown hother sweep hmargin again =>
    obtain rfl : own = constants := Option.some.inj (hown.symm.trans hthreshold)
    obtain rfl : other = device := Option.some.inj (hother.symm.trans hdevice)
    obtain rfl := again.eq_noData
    obtain ⟨level, htakes, hgives⟩ := sweep.exists_sweep hfits
    obtain ⟨level', htakes', hgives', -⟩ := again.exists_again hfits htakes sweep.replay
    refine ⟨_, some _, [], ?_, htakes.swept_again sweep.replay htakes' rfl rfl, ?_,
      .unmeasuredAgain hgives hmargin hgives'⟩
    · simp [sweepsJournal]
    · rw [again.replay, sweep.replay]
      rfl
  | @unrealized own other _ _ _ _ _ _ _ _ hown hother sweep hmargin again probe =>
    obtain rfl : own = constants := Option.some.inj (hown.symm.trans hthreshold)
    obtain rfl : other = device := Option.some.inj (hother.symm.trans hdevice)
    obtain ⟨level, htakes, hgives⟩ := sweep.exists_sweep hfits
    obtain ⟨level', htakes', hgives', -⟩ := again.exists_again hfits htakes sweep.replay
    refine ⟨_, some _, _, ?_, htakes.swept_again sweep.replay htakes' rfl rfl, ?_,
      .unrealized hgives hmargin hgives' probe⟩
    · simp [sweepsJournal]
    · rw [again.replay, sweep.replay]
      rfl
  | @raised own other _ mid _ _ _ _ _ after _ hown hother hdac' sweep hmargin again probe =>
    obtain rfl : own = constants := Option.some.inj (hown.symm.trans hthreshold)
    obtain rfl : other = device := Option.some.inj (hother.symm.trans hdevice)
    subst hdac'
    obtain ⟨level, htakes, hgives⟩ := sweep.exists_sweep hfits
    obtain ⟨level', htakes', hgives', hsome⟩ := again.exists_again hfits htakes sweep.replay
    have hafter : after = context.withMask after.mask := by
      rw [again.replay, sweep.replay]
      rfl
    obtain ⟨first, hprobe, hlevel⟩ := probe.exists_level
    rw [hafter] at hlevel
    refine ⟨_, some _, _, ?_, (htakes.swept_again sweep.replay htakes' rfl rfl).of_mask rfl, ?_,
      hsome mid rfl, .raised hgives hmargin hgives'
        (raised_raisedForMargin hdac htop) hprobe hlevel rfl⟩
    · simp [sweepsJournal]
    · rw [hafter]
      rfl

/-- The check raises the register once or not at all. It masks the channels that did not answer, and
when it fails that is all it does. -/
theorem margin_check_raises_once [RaisingScalar R] (bench : Bench σ R)
    (settings : ThresholdSettings R) (context : Context R) {constants : ThresholdConstants R}
    {device : DeviceBaseline R} (hfits : context.Fits)
    (hthreshold : context.threshold = some constants)
    (hdevice : context.deviceBaseline = some device) (hdac : constants.dac ≤ settings.thdacMax)
    (htop : settings.thdacMax ≤ maxRegister) (link : Link σ) :
    ∃ first second rest,
      ((recheckMargin bench settings).run ⟨link, context⟩).2.link.journal =
        link.journal ++ (sweepsJournal first second ++ rest) ∧
      Swept bench context constants.dac
        (toNat (smaller
          (ofCount constants.dac + larger (round (device.rms / constants.slope)) (ofCount 1))
          (ofCount settings.thdacMax)))
        ((recheckMargin bench settings).run ⟨link, context⟩).2.context first second ∧
      EndsAs bench settings context constants
        ((recheckMargin bench settings).run ⟨link, context⟩).2.context first second rest
        ((recheckMargin bench settings).run ⟨link, context⟩).1 := by
  obtain ⟨entries, hjournal, hchecked⟩ := recheckMargin_ensures context link
  obtain ⟨first, second, rest, rfl, hsweeps⟩ :=
    hchecked.exists_sweeps hfits hthreshold hdevice hdac htop
  exact ⟨first, second, rest, hjournal, hsweeps⟩

/-- Two channels four counts low, with a noise of five counts at two counts a step: the register
goes up by three steps. -/
theorem margin_check_raises_once_short :
    Exact.marginContext.Fits ∧
      Exact.shortConstants.dac ≤ Exact.settings.threshold.thdacMax ∧
      Exact.settings.threshold.thdacMax ≤ maxRegister ∧
      ∃ first again, again.dac = 28 ∧ Swept Exact.shortBench Exact.marginContext 25 28
        Exact.marginCheck.2.context first (some again) := by
  have hanswer : Exact.marginCheck.1 = .ok ⟨[some 2, some 2], 2⟩ := by cbv
  have hthreshold : Exact.marginCheck.2.context.threshold =
      some { Exact.shortConstants with dac := 28, realized := 106 } := by cbv
  have hraised : toNat (smaller (ofCount 25 + larger (Scalar.round (5 / 2 : ℚ)) (ofCount 1))
      (ofCount Exact.settings.threshold.thdacMax)) = 28 := by cbv
  refine ⟨rfl, by decide, by decide, ?_⟩
  obtain ⟨first, second, rest, -, hswept, hends⟩ := margin_check_raises_once Exact.shortBench
    Exact.settings.threshold Exact.marginContext rfl rfl rfl (by decide) (by decide) (.new ())
  rw [← Exact.marginCheck] at hswept hends
  change Swept _ _ 25 (toNat (smaller (ofCount 25 + larger (Scalar.round (5 / 2 : ℚ)) (ofCount 1))
    (ofCount Exact.settings.threshold.thdacMax))) _ _ _ at hswept
  rw [hraised] at hswept
  rw [hanswer] at hends
  obtain ⟨-, -, hsettles⟩ := hends
  cases hsettles with
  | kept _ _ hkept =>
    rw [hthreshold] at hkept
    exact absurd hkept (by simp [Exact.marginContext, Exact.shortContext, Exact.shortConstants])
  | @raised again => exact ⟨first, again, (hswept.again again rfl).dac, hswept⟩

end Threshold

end ThresholdTrim
