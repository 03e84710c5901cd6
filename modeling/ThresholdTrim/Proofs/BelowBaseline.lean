import ThresholdTrim.Proofs.LastReading
import ThresholdTrim.Proofs.Exact

/-!
# Channels below their baseline

A channel that lies below its baseline at its best trim fires on its own noise, and the trim stage
takes it out of use. Two kinds of channels are spared. A channel without a usable trim response is
left at mid trim, wherever that puts it. And a channel that is not too far below waits for the
second pass, which is run only when it helps one of those that wait.
-/

namespace ThresholdTrim

open Scalar Statistics Sampler

variable {σ R : Type} [Scalar R] {bench : Bench σ R} {settings : Settings R}
  {context after : Context R} {channel : Nat} {entries later : Journal}

/-! ## Readings below the baseline -/

/-- The last reading of the channel is at a threshold, and its median lies below the baseline. -/
def Journal.LastBelow (entries : Journal) (channel : Nat) (baseline : R) : Prop :=
  ∃ request batch sample dac trim, entries.lastReading channel = some (request, .ok batch) ∧
    request.setting = .threshold dac trim ∧ median batch = some sample ∧
    lt (ofCount sample - baseline) (ofCount 0) = true

theorem Journal.lastBelow_append_of_ne {baseline : R}
    (h : ∀ request ∈ later.requests, request.channel.channel ≠ channel) :
    (entries ++ later).LastBelow channel baseline ↔ entries.LastBelow channel baseline := by
  rw [LastBelow, lastReading_append_of_ne h, LastBelow]

theorem Journal.Fails.not_lastBelow {baseline : R} (h : entries.Fails channel) :
    ¬entries.LastBelow channel baseline := by
  rintro ⟨_, batch, sample, _, _, hlast, _, hmedian, _⟩
  obtain ⟨_, _, reason, hfails, hreason⟩ := h
  obtain ⟨_, rfl⟩ := Prod.mk.inj (Option.some.inj (hfails.symm.trans hlast))
  -- an empty batch has no median, and any other one is usable
  cases batch with
  | nil => simp [median, medianBy] at hmedian
  | cons => cases hreason

/-- A level that is not below the baseline, unless the channel is read again later. -/
theorem Sampler.LevelRead.not_lastBelow {key : ChannelKey} {setting : Setting} {level baseline : R}
    {own : Journal} (h : LevelRead bench key setting (.ok level) own)
    (hlevel : lt (level - baseline) (ofCount 0) = false)
    (hlater : ∀ request ∈ later.requests, request.channel.channel ≠ key.channel) :
    ¬(entries ++ own ++ later).LastBelow key.channel baseline := by
  rintro ⟨_, _, _, _, _, hlast, _, hmedian, hbelow⟩
  obtain ⟨_, batch, sample, hread, hsample, rfl⟩ := h.lastReading
  have hsame := (Journal.lastReading_between hread hlater).symm.trans hlast
  obtain ⟨_, hbatch⟩ := Prod.mk.inj (Option.some.inj hsame)
  obtain rfl := Except.ok.inj hbatch
  obtain rfl := Option.some.inj (hsample.symm.trans hmedian)
  exact Bool.noConfusion (hlevel.symm.trans hbelow)

/-! ## Channels a pass leaves in use -/

namespace Trim

variable {trims : TrimSettings R} {dac : Nat} {pass : Pass} {outcome : PassOutcome R}
  {deviceEff : R} {found : Option (Region R)} {settled : Settled R}

/-- The three ways a channel with a baseline stays in use through a pass. -/
inductive Kept (trims : TrimSettings R) (pass : Pass) (outcome : PassOutcome R) (flavor : Flavor)
    (channel : Nat) (baseline : R) (entries : Journal) (result : TrimResult R) : Prop
  | leftAtMid (htrimMax : result.trimMax = 0) (hbestTrim : result.bestTrim = trims.mid)
  | short (hpass : pass = .first)
    (hcutoff : lt (flavor.toCounts trims.bumpCutoffMv) (-result.eff) = false)
    (hbump : (channel, -result.eff) ∈ outcome.bumps)
  | aligned (heff : lt result.eff (ofCount 0) = false)
    (hlast : ∀ earlier : Journal, ¬(earlier ++ entries).LastBelow channel baseline)

omit [Scalar R] in
theorem mem_bumps_iff {all : List (Settled R)} {bump : R} :
    (channel, bump) ∈ (PassOutcome.ofSettled all).bumps ↔
      ∃ settled, all[channel]? = some settled ∧ settled.bump = some bump := by
  constructor
  · intro hmem
    obtain ⟨⟨settled, place⟩, hplace, hbump⟩ := List.mem_filterMap.mp hmem
    obtain ⟨found, hfound, heq⟩ := Option.map_eq_some_iff.mp hbump
    cases heq
    exact ⟨settled, List.mem_zipIdx_iff_getElem?.mp hplace, hfound⟩
  · rintro ⟨settled, hsettled, hbump⟩
    refine List.mem_filterMap.mpr ⟨(settled, channel), ?_, ?_⟩
    · exact List.mem_zipIdx_iff_getElem?.mpr hsettled
    · exact congrArg (Option.map (channel, ·)) hbump

/-- A channel for which no region was found is out of use. -/
theorem isMasked_of_none {regions : List (Option (Region R))} {channels : Nat}
    (h : Chain (RegionFound bench trims dac) (List.range channels) context regions entries after)
    (hregion : regions[channel]? = some none) (hinside : channel < context.mask.reasons.length) :
    after.mask.isMasked channel = true := by
  obtain ⟨found, before, own, later, k₁, k₂, hfound, rfl, hown, _, hend, _, hbefore⟩ :=
    h.turn_range regionFound_takesOne (h.lt_of_getElem? hregion)
  obtain rfl : found = none := Option.some.inj (hfound.symm.trans hregion)
  obtain rfl : k₁ = context.replay before := regions_replay hbefore
  dsimp only [id] at hend
  rw [ChannelMask.isMasked, hend]
  cases hown with
  | masked hmasked => exact hmasked
  | failed =>
    refine ChannelMask.isMasked_mask ?_
    rw [Context.length_reasons_replay]
    exact hinside

/-- A channel with a region, settled and still in use. -/
theorem SettledAs.exists_kept {region : Region R} {all : List (Settled R)} {own : Journal}
    (h : SettledAs bench trims dac pass deviceEff (some region, channel) context settled own after)
    (hsettled : all[channel]? = some settled) (hinside : channel < context.mask.reasons.length)
    (hinUse : after.mask.isMasked channel = false)
    (hlater : ∀ request ∈ later.requests, request.channel.channel ≠ channel) :
    ∃ result, settled.result = some result ∧
      Kept trims pass (.ofSettled all) context.spec.flavor channel (context.baseline channel).median
        (entries ++ own ++ later) result := by
  cases h with
  | leftAtMid => exact ⟨_, rfl, .leftAtMid rfl rfl⟩
  | tried _ settle =>
    cases settle with
    | unread | below =>
      exact Bool.noConfusion (hinUse.symm.trans (ChannelMask.isMasked_mask hinside))
    | short _ _ _ hcutoff hpass =>
      exact ⟨_, rfl, .short hpass hcutoff (mem_bumps_iff.mpr ⟨_, hsettled, rfl⟩)⟩
    | aligned hlevel heff hnegative =>
      refine ⟨_, rfl, .aligned hnegative fun earlier ↦ ?_⟩
      rw [List.append_assoc, ← List.append_assoc, ← List.append_assoc]
      exact hlevel.not_lastBelow (heff ▸ hnegative) hlater

/-- A channel in use after a pass has a trim, and one of three reasons to be in use. -/
theorem PassRun.exists_kept (h : PassRun bench trims dac pass context (.ok outcome) entries after)
    (hfits : context.Fits) (hinside : channel < context.spec.channels)
    (hinUse : after.mask.isMasked channel = false) :
    ∃ result, after.trim channel = some result ∧
      Kept trims pass outcome context.spec.flavor channel (context.baseline channel).median entries
        result := by
  cases h with
  | @done regions deviceEff all searches settles between last search hmedian settle =>
    have hlength : channel < all.length := by
      rw [settle.length_eq, List.length_zipIdx, search.length_eq, List.length_range]
      exact hinside
    obtain ⟨settled, hsettled⟩ : ∃ settled, all[channel]? = some settled :=
      ⟨_, List.getElem?_eq_getElem hlength⟩
    obtain ⟨found, before, own, later, k₁, k₂, hfound, rfl, rfl, hstep, hstart, hend, hlater⟩ :=
      exists_settled settle hsettled
    obtain rfl : between = (cleared context).replay searches := regions_replay search
    have hplace : channel < context.mask.reasons.length := hfits.symm ▸ hinside
    have hinUse : k₂.mask.isMasked channel = false := by
      rw [ChannelMask.isMasked, ← hend]
      exact hinUse
    cases found with
    | none =>
      -- without a region the channel was out of use before it was settled
      have hmasked := isMasked_of_none search hfound hplace
      cases hstep
      rw [ChannelMask.isMasked, hstart] at hinUse
      exact Bool.noConfusion (hinUse.symm.trans hmasked)
    | some region =>
      obtain ⟨result, hresult, hkept⟩ : ∃ result, settled.result = some result ∧
          Kept trims pass (.ofSettled all) context.spec.flavor channel
            (context.baseline channel).median (searches ++ before ++ own ++ later) result := by
        refine hstep.exists_kept hsettled ?_ hinUse hlater
        rw [Context.replay, Context.withMask, ChannelMask.length_reasons_replay, Context.replay,
          Context.withMask, ChannelMask.length_reasons_replay]
        exact hplace
      refine ⟨result, ?_, by simpa using hkept⟩
      rw [Context.trim, List.getElem?_map, hsettled]
      exact hresult

/-! ## Channels that are spared -/

/-- Why a channel may be in use below its baseline when the trims are done. -/
inductive Spared (trims : TrimSettings R) (flavor : Flavor) (secondPass : Bool)
    (result : TrimResult R) : Prop
  /-- Its trim response is not usable, so that it has no best trim. -/
  | leftAtMid (htrimMax : result.trimMax = 0) (hbestTrim : result.bestTrim = trims.mid)
  /-- There was no second pass. The channel is within the cutoff, but too far below its baseline
  for half its trim range. -/
  | unfixable (hpass : secondPass = false)
    (hcutoff : lt (flavor.toCounts trims.bumpCutoffMv) (-result.eff) = false)
    (hrange : le (-result.eff) (abs result.slope * ofCount result.trimMax / ofCount 2) = false)

/-- A channel in use when the trims are done is on its baseline or above, or spared. -/
theorem Optimized.exists_trim (h : Optimized bench trims context (.ok ()) entries after)
    (hfits : context.Fits) (hinside : channel < context.spec.channels)
    (hpass : context.secondPass = false) (hinUse : after.mask.isMasked channel = false) :
    ∃ result, after.trim channel = some result ∧
      (Spared trims context.spec.flavor after.secondPass result ∨
        lt result.eff (ofCount 0) = false ∧ ∀ earlier : Journal,
          ¬(earlier ++ entries).LastBelow channel (context.baseline channel).median) := by
  cases h with
  | @once _ outcome pass _ _ first hfixable =>
    obtain ⟨result, hresult, hkept⟩ := first.exists_kept hfits hinside hinUse
    refine ⟨result, hresult, ?_⟩
    cases hkept with
    | leftAtMid htrimMax hbestTrim => exact .inl (.leftAtMid htrimMax hbestTrim)
    | short _ hcutoff hbump =>
      refine .inl (.unfixable ?_ hcutoff ?_)
      · rw [first.replay]
        exact hpass
      · have hbump := List.any_eq_false.mp hfixable _ hbump
        rw [Context.trim] at hresult
        simpa [isFixable, hresult] using hbump
    | aligned heff hlast =>
      refine .inr ⟨heff, fun earlier hbelow ↦ hlast earlier ?_⟩
      rw [← List.append_assoc, Journal.lastBelow_append_of_ne] at hbelow
      · exact hbelow
      · simp [Journal.requests_notices]
  | @again _ _ _ dac realized pass probe second between _ _ first _ _ _ again =>
    have hfollows : context.Follows .any pass between :=
      first.follows (fun _ _ _ _ ↦ trivial) (fun _ ↦ trivial) fun _ ↦ trivial
    have hinside : channel < between.spec.channels := hfollows.spec ▸ hinside
    obtain ⟨result, hresult, hkept⟩ := again.exists_kept (hfollows.fits hfits) hinside hinUse
    refine ⟨result, hresult, ?_⟩
    cases hkept with
    | leftAtMid htrimMax hbestTrim => exact .inl (.leftAtMid htrimMax hbestTrim)
    | short hfirst => cases hfirst -- no channel is left short by a second pass
    | aligned heff hlast =>
      refine .inr ⟨heff, fun earlier ↦ ?_⟩
      have hlast : ¬Journal.LastBelow (earlier ++ pass ++ probe ++ second) channel
          (context.baseline channel).median := by
        have hlast := hlast (earlier ++ pass ++ probe)
        rw [first.replay] at hlast
        exact hlast
      simpa using hlast

end Trim

/-! ## Whole runs -/

namespace Calibration

variable {geometry : Geometry} {mode : Mode} {spec : DeviceSpec} {final : Context R}

/-- How a run with these entries deals with channels below their baseline. -/
structure KeepsAboveBaseline (settings : Settings R) (spec : DeviceSpec) (entries : Journal)
    (final : Context R) : Prop where
  /-- A channel in use has a trim, and is on its baseline or above unless it is spared. -/
  inUse : ∀ channel < spec.channels, final.mask.isMasked channel = false →
    ∃ result, final.trim channel = some result ∧ (lt result.eff (ofCount 0) = false ∨
      Trim.Spared settings.trim spec.flavor final.secondPass result)
  /-- A channel that was last read below its baseline is masked for it unless it is spared. -/
  below : ∀ channel < spec.channels, entries.LastBelow channel (final.baseline channel).median →
    final.mask.reason channel = some .belowBaseline ∨
      final.mask.isMasked channel = false ∧ ∃ result, final.trim channel = some result ∧
        Trim.Spared settings.trim spec.flavor final.secondPass result

/-- A channel masked for another reason was not last read below its baseline. -/
theorem not_lastBelow_of_reason {remit : Remit} {mask : ChannelMask} {reason : MaskReason}
    {baseline : R} (hwithin : Journal.Within spec remit mask (entries ++ later))
    (hbaseline : ∀ request ∈ entries.requests, request.setting = .baseline)
    (haccounted : later.Accounted) (hinside : channel < mask.reasons.length)
    (hmask : mask.reason channel = none)
    (hreason : (mask.replay (entries ++ later)).reason channel = some reason)
    (hother : reason ≠ .belowBaseline) : ¬(entries ++ later).LastBelow channel baseline := by
  have hmem := (ChannelMask.reason_replay hreason).resolve_left (by simp [hmask])
  obtain ⟨before, after, hsplit⟩ := List.append_of_mem hmem
  rw [hsplit] at hwithin ⊢
  have hlast := hwithin.lastReading_of_masked hinside
  rintro ⟨request, batch, sample, dac, trim, hread, hsetting, hbelow⟩
  rw [hlast] at hread
  -- masked after the baselines, the channel failed; masked among them, it was read at rest only
  rcases List.append_eq_append_iff.mp hsplit with ⟨rest, rfl, hlater⟩ | ⟨rest, rfl, _⟩
  · have hfails := (haccounted rest channel reason after hlater).resolve_left hother
    have hbefore : Journal.Fails (entries ++ rest) channel := hfails.append_left
    exact hbefore.not_lastBelow ⟨request, batch, sample, dac, trim, hread, hsetting, hbelow⟩
  · have hmem : request ∈ Journal.requests (before ++ rest) := by
      rw [Journal.requests_append]
      refine List.mem_append_left _ (Journal.mem_requests.mpr ⟨.ok batch, ?_⟩)
      exact Journal.mem_of_lastReading hread
    exact nomatch hsetting.symm.trans (hbaseline request hmem)

/-- The stages up to the classifier read nothing but baselines. -/
theorem requests_of_classified {device : DeviceBaseline R} {verdict : Classification}
    {sampled classified : Context R}
    (hsample : Baseline.Sampled bench geometry (start settings spec) (.ok device) entries sampled)
    (hclassify : Classified settings.classifier sampled verdict later classified) :
    ∀ request ∈ Journal.requests (entries ++ later), request.setting = .baseline := by
  have hpermits : Baseline.Permits ⟨fun request ↦ request.setting = .baseline, fun _ _ ↦ True⟩
      geometry spec.key := ⟨fun _ _ _ ↦ rfl, fun _ _ ↦ trivial, fun _ _ ↦ trivial⟩
  have hfollows := (hsample.follows hpermits fun channel _ ↦ isMasked_start channel).trans
    (hclassify.follows fun _ ↦ trivial)
  exact fun request hmem ↦ hfollows.within.request hmem

/-- A trim run that ends well: baselines, then the threshold, then trims in a first pass. -/
theorem exists_optimized
    (h : Staged bench geometry settings .trim (start settings spec) (.ok ()) entries after) :
    ∃ first second trims checked, entries = first ++ (second ++ trims) ∧
      (∀ request ∈ Journal.requests first, request.setting = .baseline) ∧
      second.Accounted ∧ (start settings spec).Follows .any (first ++ second) checked ∧
      checked.secondPass = false ∧
      Trim.Optimized bench settings.trim checked (.ok ()) trims after := by
  cases h with
  | @measured _ _ sampling _ sampled _ sample rest =>
    cases rest with
    | baseline hmode | threshold hmode => cases hmode
    | @trim _ _ _ _ classifying solving checking trims classified checked _ _ classify solve check
        optimize =>
      have hpermits : Permits .any settings .trim := permits_any
      have hsampled : (start settings spec).Follows .any sampling sampled :=
        sample.follows Baseline.permits_any fun channel _ ↦ isMasked_start channel
      have hclassified := hsampled.trans (classify.follows hpermits.hot)
      have hsolved := solved_follows classify solve hpermits (hsampled.fits fits_start)
        hsampled.trimMid
      have hchecked := checked_follows check (solved_dac solve) hpermits
        (hclassified.fits fits_start) hclassified.trimMid
      refine ⟨sampling ++ classifying, solving ++ checking, trims, checked, by simp,
        requests_of_classified sample classify,
        (solve.accounted (hclassified.fits fits_start)).append check.accounted, ?_, ?_, optimize⟩
      · simpa using (hsampled.trans hsolved).trans hchecked
      · rw [check.replay, classify.replay, sample.replay]
        rfl

/-- A channel in use after a trim run has a trim, and is spared or not last read below its
baseline. -/
theorem Staged.exists_trim
    (h : Staged bench geometry settings .trim (start settings spec) (.ok ()) entries after)
    (hinside : channel < spec.channels) (hinUse : after.mask.isMasked channel = false) :
    ∃ result, after.trim channel = some result ∧
      (Trim.Spared settings.trim spec.flavor after.secondPass result ∨
        lt result.eff (ofCount 0) = false ∧
        ¬entries.LastBelow channel (after.baseline channel).median) := by
  obtain ⟨first, second, trims, checked, rfl, _, _, hchecked, hpass, optimize⟩ :=
    exists_optimized h
  have hspec : checked.spec = spec := hchecked.spec
  obtain ⟨result, hresult, hkept⟩ := optimize.exists_trim (hchecked.fits fits_start)
    (hspec ▸ hinside) hpass hinUse
  refine ⟨result, hresult, ?_⟩
  rw [hspec] at hkept
  refine hkept.imp_right fun ⟨heff, hlast⟩ ↦ ⟨heff, ?_⟩
  rw [← List.append_assoc, Context.baseline, optimize.replay]
  exact hlast (first ++ second)

/-- A channel masked for another reason by a trim run was not last read below its baseline. -/
theorem Staged.not_lastBelow {reason : MaskReason} {baseline : R}
    (h : Staged bench geometry settings .trim (start settings spec) (.ok ()) entries after)
    (hinside : channel < spec.channels) (hreason : after.mask.reason channel = some reason)
    (hother : reason ≠ .belowBaseline) : ¬entries.LastBelow channel baseline := by
  have hfollows : (start settings spec).Follows .any entries after :=
    h.follows Baseline.permits_any permits_any
  obtain ⟨_, _, _, _, rfl, hbaseline, haccounted, _, _, optimize⟩ := exists_optimized h
  have hplace : channel < (start settings spec).mask.reasons.length := by
    rw [fits_start]
    exact hinside
  rw [hfollows.mask] at hreason
  exact not_lastBelow_of_reason hfollows.within hbaseline (haccounted.append optimize.accounted)
    hplace (ChannelMask.reason_new _ _) hreason hother

/-- A trim run that ends well keeps its channels above their baselines. -/
theorem keepsAboveBaseline_of
    (h : Staged bench geometry settings .trim (start settings spec) (.ok ()) entries after) :
    KeepsAboveBaseline settings spec entries { after with status := .resolved } := by
  constructor
  · intro channel hinside hinUse
    obtain ⟨result, hresult, hspared | ⟨heff, _⟩⟩ := h.exists_trim hinside hinUse
    · exact ⟨result, hresult, .inr hspared⟩
    · exact ⟨result, hresult, .inl heff⟩
  · intro channel hinside hbelow
    cases hreason : after.mask.reason channel with
    | none =>
      have hinUse := ChannelMask.reason_eq_none_iff.mp hreason
      obtain ⟨result, hresult, hspared | ⟨_, hlast⟩⟩ := h.exists_trim hinside hinUse
      · exact .inr ⟨hinUse, result, hresult, hspared⟩
      · exact absurd hbelow hlast
    | some reason =>
      by_cases hother : reason = .belowBaseline
      · exact .inl (congrArg some hother)
      · exact absurd hbelow (h.not_lastBelow hinside hreason hother)

/-- Whatever the front-end answers, a trim run that ends well leaves a channel in use below its
baseline only when it spares it. -/
theorem below_baseline_is_masked_unless_spared (bench : Bench σ R) (geometry : Geometry)
    (settings : Settings R) (mode : Mode) (spec : DeviceSpec) (link : Link σ)
    (hmode : mode.onBoard spec.flavor = .trim)
    (hresolved : (calibrate bench geometry settings mode spec link).context.isResolved = true) :
    ∃ entries, (calibrate bench geometry settings mode spec link).link.journal =
        link.journal ++ entries ∧
      KeepsAboveBaseline settings spec entries
        (calibrate bench geometry settings mode spec link).context := by
  obtain ⟨entries, hjournal, hcourse⟩ := exists_course bench geometry settings mode spec link
  refine ⟨entries, hjournal, ?_⟩
  generalize (calibrate bench geometry settings mode spec link).context = final at hcourse hresolved
  cases hcourse with
  | resolved stages => exact keepsAboveBaseline_of (hmode ▸ stages)
  | masked => cases hresolved

/-- The lopsided device resolves, with two channels in use below their baselines. -/
theorem lopsided_outcome :
    (fun final : Context ℚ ↦ (final.isResolved, [2, 3].map fun channel ↦
      (final.mask.isMasked channel,
        (final.trim channel).map fun result ↦ lt result.eff (ofCount 0))))
      Exact.lopsidedRun.context = (true, [(false, some true), (false, some true)]) := by
  cbv

theorem below_baseline_is_masked_unless_spared_lopsided :
    (Mode.trim.onBoard Exact.lopsidedSpec.flavor = .trim ∧
      Exact.lopsidedRun.context.isResolved = true) ∧
    ∃ entries, Exact.lopsidedRun.link.journal = (Link.new ()).journal ++ entries ∧
      KeepsAboveBaseline Exact.settings Exact.lopsidedSpec entries Exact.lopsidedRun.context := by
  have hmode : Mode.trim.onBoard Exact.lopsidedSpec.flavor = .trim := rfl
  have hresolved : Exact.lopsidedRun.context.isResolved = true :=
    congrArg Prod.fst lopsided_outcome
  exact ⟨⟨hmode, hresolved⟩,
    below_baseline_is_masked_unless_spared _ _ _ _ _ _ hmode hresolved⟩

/-- Channels are spared for both reasons, and a run that ends well may have channels in use below
their baselines. -/
theorem lopsided_channels_lie_below_baseline :
    (Exact.settings.validate Exact.lopsidedSpec = .ok () ∧
      Mode.trim.onBoard Exact.lopsidedSpec.flavor = .trim ∧
      Exact.lopsidedRun.context.isResolved = true) ∧
    (∀ channel ∈ [2, 3], Exact.lopsidedRun.context.mask.isMasked channel = false ∧
      ∃ result, Exact.lopsidedRun.context.trim channel = some result ∧
        lt result.eff (ofCount 0) = true) ∧
    ¬∀ channel < Exact.lopsidedSpec.channels,
      Exact.lopsidedRun.context.mask.isMasked channel = false →
      ∃ result, Exact.lopsidedRun.context.trim channel = some result ∧
        lt result.eff (ofCount 0) = false := by
  have hvalid : Exact.settings.validate Exact.lopsidedSpec = .ok () := by cbv
  have hbelow : ∀ channel ∈ [2, 3], Exact.lopsidedRun.context.mask.isMasked channel = false ∧
      ∃ result, Exact.lopsidedRun.context.trim channel = some result ∧
        lt result.eff (ofCount 0) = true := by
    have houtcome := lopsided_outcome
    generalize Exact.lopsidedRun.context = final at houtcome ⊢
    simpa using (Prod.mk.inj houtcome).2
  refine ⟨⟨hvalid, rfl, congrArg Prod.fst lopsided_outcome⟩, hbelow, fun hall ↦ ?_⟩
  obtain ⟨hinUse, _, hresult, hnegative⟩ := hbelow 2 (by decide)
  obtain ⟨_, hsame, heff⟩ := hall 2 (by decide) hinUse
  obtain rfl := Option.some.inj (hresult.symm.trans hsame)
  exact Bool.noConfusion (heff.symm.trans hnegative)

end Calibration

end ThresholdTrim
