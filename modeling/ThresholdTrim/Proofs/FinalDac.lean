import ThresholdTrim.Proofs.Course.Calibration
import ThresholdTrim.Proofs.Exact

/-!
# Reported levels belong to the final register

The threshold register moves in two stages, the margin check and the trim re-entry, and four
records depend on it. The invariant is `MeasuredAt`: the journal splits into an earlier part and a
last one, all readings of the last part were taken at the register value recorded, and every level
recorded was read there. A stage that leaves the register alone extends the last part; a stage that
moves it starts a new last part and reads everything anew.
-/

namespace ThresholdTrim

open Scalar Statistics Sampler

variable {σ R : Type} [Scalar R] {bench : Bench σ R} {settings : Settings R} {spec : DeviceSpec}
  {context after : Context R} {mask : ChannelMask} {entries later : Journal}

/-! ## Levels in a journal -/

namespace Journal

/-- The level is the median of a batch the channel was read with at the setting. -/
def HasMedian (entries : Journal) (channel : ChannelKey) (setting : Setting) (level : R) : Prop :=
  ∃ count batch sample, .reading ⟨channel, setting, count⟩ (.ok batch) ∈ entries ∧
    median batch = some sample ∧ level = ofCount sample

/-- The level is one a sampler reads at the setting, on some channel that was in use just then: a
median, or a mean of what pruning leaves. -/
def HasLevel (entries : Journal) (spec : DeviceSpec) (mask : ChannelMask) (margin : R)
    (setting : Setting) (level : R) : Prop :=
  ∃ before request batch after center,
    entries = before ++ .reading request (.ok batch) :: after ∧ request.setting = setting ∧
    request.Addresses spec (mask.replay before) ∧ median batch = some center ∧
    (level = ofCount center ∨
      prune batch (ofCount center) margin spec.flavor ≠ [] ∧
        level = mean (ofCounts (prune batch (ofCount center) margin spec.flavor)))

variable {channel : ChannelKey} {setting : Setting} {margin level : R} {remit : Remit}

theorem HasMedian.mono (h : HasMedian entries channel setting level) (hsub : entries ⊆ later) :
    HasMedian later channel setting level := by
  obtain ⟨count, batch, sample, hmem, hmedian⟩ := h
  exact ⟨count, batch, sample, hsub hmem, hmedian⟩

theorem HasLevel.append_right (h : HasLevel entries spec mask margin setting level)
    (later : Journal) : HasLevel (entries ++ later) spec mask margin setting level := by
  obtain ⟨before, request, batch, after, center, rfl, hlevel⟩ := h
  refine ⟨before, request, batch, after ++ later, center, ?_, hlevel⟩
  rw [List.append_assoc, List.cons_append]

theorem HasLevel.append_left (h : HasLevel later spec (mask.replay entries) margin setting level) :
    HasLevel (entries ++ later) spec mask margin setting level := by
  obtain ⟨before, request, batch, after, center, rfl, hsetting, haddress, hlevel⟩ := h
  refine ⟨entries ++ before, request, batch, after, center, ?_, hsetting, ?_, hlevel⟩
  · rw [List.append_assoc]
  · rwa [ChannelMask.replay_append]

end Journal

theorem Sampler.LevelRead.hasMedian {channel : ChannelKey} {setting : Setting} {level : R}
    (h : LevelRead bench channel setting (.ok level) entries) :
    entries.HasMedian channel setting level := by
  cases h with
  | read acquired hmedian => exact ⟨_, _, _, acquired.reading.1, hmedian, rfl⟩

theorem Sampler.Acquired.hasLevel {request : Request} {batch : List Nat} {margin level : R}
    {center : Nat} (h : Acquired bench request (.ok batch) entries)
    (haddress : request.Addresses spec mask) (hmedian : median batch = some center)
    (hlevel : level = ofCount center ∨
      prune batch (ofCount center) margin spec.flavor ≠ [] ∧
        level = mean (ofCounts (prune batch (ofCount center) margin spec.flavor))) :
    entries.HasLevel spec mask margin request.setting level := by
  have hasks := h.asks.maskings
  obtain ⟨before, after, rfl⟩ := List.append_of_mem h.reading.1
  rw [Journal.maskings_append, List.append_eq_nil_iff] at hasks
  refine ⟨before, request, batch, after, center, rfl, rfl, ?_, hmedian, hlevel⟩
  rwa [ChannelMask.replay_of_maskings_eq_nil hasks.1]

theorem Threshold.RealizedRead.hasLevel {dac : Nat} {realized margin : R}
    (h : RealizedRead bench dac context (.ok realized) entries) (hfits : context.Fits) :
    entries.HasLevel context.spec context.mask margin (.threshold dac context.trimMid)
      realized := by
  cases h with
  | read hprobe hlevel =>
    cases hlevel with
    | read acquired hmedian =>
      exact acquired.hasLevel (addresses_of_head? hfits hprobe) hmedian (.inl rfl)

theorem Threshold.Verified.hasLevel {thresholds : ThresholdSettings R} {probe dac further : Nat}
    {baselineMv goalMv realized : R} {result : Except (CalibrationError R) R}
    (h : Verified bench thresholds probe dac baselineMv goalMv context further result entries)
    (hfits : context.Fits) (hprobe : context.mask.unmasked.head? = some probe)
    (hresult : result = .ok realized) :
    entries.HasLevel context.spec context.mask thresholds.guessMarginMv
      (.threshold dac context.trimMid) realized := by
  induction h with
  | rejected => cases hresult
  | accepted tried =>
    obtain rfl := Except.ok.inj hresult
    cases tried with
    | accepted hlevel =>
      cases hlevel with
      | read acquired hmedian hkept =>
        exact acquired.hasLevel (addresses_of_head? hfits hprobe) hmedian (.inr ⟨hkept, rfl⟩)
  | @again _ _ _ entries _ tried _ ih =>
    -- a rejected candidate masks nothing, so the mask of the loop is the one of the next try
    have hkeep : Journal.maskings (entries ++ [.notice .candidateRejected, .pause]) = [] := by
      rw [Journal.maskings_append, tried.maskings]
      rfl
    have hmask : context.mask.replay (entries ++ [.notice .candidateRejected, .pause]) =
        context.mask := ChannelMask.replay_of_maskings_eq_nil hkeep
    have hrest := ih hresult
    rw [← hmask] at hrest
    simpa using hrest.append_left

/-! ## Records of the stages -/

/-- The thresholds at mid trim were read in the entries. -/
structure MidTrim.ReadIn (mid : MidTrim R) (context : Context R) (dac trimMid : Nat)
    (entries : Journal) : Prop where
  channelEff : ∀ channel eff, mid.channelEff[channel]? = some (some eff) →
    ∃ level, entries.HasMedian (context.channelKey channel) (.threshold dac trimMid) level ∧
      eff = level - (context.baseline channel).median
  deviceEff : scalarMedian (mid.channelEff.filterMap id) = some mid.deviceEff

/-- The trim of a channel was read in the entries, or stands for the reading at mid trim. -/
structure TrimResult.ReadIn (result : TrimResult R) (context : Context R)
    (channel dac trimMid : Nat) (entries : Journal) : Prop where
  trimmed : result.trimMax ≠ 0 →
    entries.HasMedian (context.channelKey channel) (.threshold dac result.bestTrim) result.median ∧
      result.eff = result.median - (context.baseline channel).median
  leftAtMid : result.trimMax = 0 → result.bestTrim = trimMid ∧
    ∃ mid, context.mid = some mid ∧ mid.channelEff[channel]? = some (some result.eff)

/-- All that a pass or a margin check records was read in the entries. -/
structure Context.LevelsReadIn (context : Context R) (dac : Nat) (entries : Journal) : Prop where
  mid : ∀ mid, context.mid = some mid → mid.ReadIn context dac context.trimMid entries
  trim : ∀ channel result, context.trim channel = some result →
    result.ReadIn context channel dac context.trimMid entries

theorem MidTrim.ReadIn.mono {mid : MidTrim R} {dac trimMid : Nat}
    (h : mid.ReadIn context dac trimMid entries) (hsub : entries ⊆ later) :
    mid.ReadIn context dac trimMid later := by
  refine ⟨fun channel eff heff ↦ ?_, h.deviceEff⟩
  obtain ⟨level, hlevel, heff⟩ := h.channelEff channel eff heff
  exact ⟨level, hlevel.mono hsub, heff⟩

/-- The readings are those of the channels; whatever else is filled in does not matter. -/
theorem MidTrim.ReadIn.filled {mid : MidTrim R} {dac trimMid : Nat} {filled : Context R}
    (h : mid.ReadIn context dac trimMid entries) (hspec : filled.spec = context.spec)
    (hbaselines : filled.baselines = context.baselines) :
    mid.ReadIn filled dac trimMid entries := by
  refine ⟨fun channel eff heff ↦ ?_, h.deviceEff⟩
  rw [Context.channelKey, Context.baseline, hspec, hbaselines]
  exact h.channelEff channel eff heff

theorem TrimResult.ReadIn.mono {result : TrimResult R} {channel dac trimMid : Nat}
    (h : result.ReadIn context channel dac trimMid entries) (hsub : entries ⊆ later) :
    result.ReadIn context channel dac trimMid later := by
  refine ⟨fun husable ↦ ?_, h.leftAtMid⟩
  obtain ⟨hmedian, heff⟩ := h.trimmed husable
  exact ⟨hmedian.mono hsub, heff⟩

theorem Context.LevelsReadIn.mono {dac : Nat} (h : context.LevelsReadIn dac entries)
    (hsub : entries ⊆ later) : context.LevelsReadIn dac later :=
  ⟨fun mid hmid ↦ (h.mid mid hmid).mono hsub,
    fun channel result hresult ↦ (h.trim channel result hresult).mono hsub⟩

theorem Threshold.MidMeasured.readIn {dac : Nat} {mid : MidTrim R}
    (h : MidMeasured bench dac context (.ok mid) entries after) :
    mid.ReadIn context dac context.trimMid entries := by
  cases h with
  | measured channels hmedian =>
    refine ⟨fun channel eff heff ↦ ?_, hmedian⟩
    obtain ⟨_, before, own, rest, k₁, k₂, hy, rfl, hbefore, hown, _⟩ :=
      channels.split (List.getElem?_range (channels.lt_of_getElem? heff))
    obtain rfl := Option.some.inj (heff.symm.trans hy)
    obtain rfl : k₁ = context.replay before :=
      hbefore.replay id fun _ _ _ _ _ hstep ↦ hstep.replay
    cases hown with
    | read _ hlevel =>
      refine ⟨_, hlevel.hasMedian.mono ?_, rfl⟩
      exact fun entry hmem ↦ List.mem_append_left _ (List.mem_append_right _ hmem)

theorem Trim.EffRead.exists_hasMedian {channel : ChannelKey} {dac trim : Nat} {baseline eff : R}
    (h : EffRead bench channel dac baseline trim (.ok eff) entries) :
    ∃ level, entries.HasMedian channel (.threshold dac trim) level ∧ eff = level - baseline := by
  cases h with
  | read hlevel => exact ⟨_, hlevel.hasMedian, rfl⟩

/-- The regions of a pass were all read at mid trim. -/
theorem Trim.midOf_readIn {trims : TrimSettings R} {dac : Nat} {regions : List (Option (Region R))}
    {channels : Nat} {deviceEff : R}
    (h : Chain (RegionFound bench trims dac) (List.range channels) context regions entries after)
    (hmedian : scalarMedian ((regions.map fun region ↦ region.map (·.midEff)).filterMap id) =
      some deviceEff) : (midOf regions deviceEff).ReadIn context dac trims.mid entries := by
  refine ⟨fun channel eff heff ↦ ?_, hmedian⟩
  rw [midOf, List.getElem?_map, Option.map_eq_some_iff] at heff
  obtain ⟨found, hfound, heff⟩ := heff
  obtain ⟨region, rfl, rfl⟩ := Option.map_eq_some_iff.mp heff
  obtain ⟨_, _, _, before, own, later, rfl, _, hsearch⟩ := exists_search h hfound
  obtain ⟨⟨first, mid, last, rfl, hmid⟩, _⟩ := hsearch.region
  obtain ⟨level, hlevel, heff⟩ := hmid.exists_hasMedian
  refine ⟨level, hlevel.mono fun entry hmem ↦ ?_, heff⟩
  simp [hmem]

/-- The trim of a channel was read when the channel was settled, or rests on its region. -/
theorem Trim.SettledAs.readIn {trims : TrimSettings R} {dac channel : Nat} {pass : Trim.Pass}
    {deviceEff : R} {found : Option (Region R)} {settled : Settled R} {result : TrimResult R}
    {regions : List (Option (Region R))} {final : Context R}
    (h : SettledAs bench trims dac pass deviceEff (found, channel) context settled entries after)
    (hresult : settled.result = some result) (hfound : regions[channel]? = some found)
    (hspec : final.spec = context.spec) (hbaselines : final.baselines = context.baselines)
    (hmid : final.mid = some (midOf regions deviceEff)) (htrimMid : final.trimMid = trims.mid) :
    result.ReadIn final channel dac final.trimMid entries := by
  have hkey : final.channelKey channel = context.channelKey channel := by
    rw [Context.channelKey, hspec, Context.channelKey]
  have hbaseline : final.baseline channel = context.baseline channel := by
    rw [Context.baseline, hbaselines, Context.baseline]
  cases h with
  | absent => cases hresult
  | @leftAtMid region =>
    obtain rfl := Option.some.inj hresult
    -- no trim was tried: the record repeats what the region says about mid trim
    refine ⟨fun hne ↦ absurd rfl hne, fun _ ↦ ⟨htrimMid.symm, _, hmid, ?_⟩⟩
    rw [midOf, List.getElem?_map, hfound]
    rfl
  | tried husable settle =>
    cases settle with
    | unread | below => cases hresult
    | short hlevel heff | aligned hlevel heff =>
      obtain rfl := Option.some.inj hresult
      refine ⟨fun _ ↦ ⟨?_, ?_⟩, fun hzero ↦ absurd hzero (trimMax_ne_zero husable)⟩
      · rw [hkey]
        exact hlevel.hasMedian
      · rw [hbaseline]
        exact heff

/-- Whatever a pass records, it read itself. -/
theorem Trim.PassRun.levelsReadIn {trims : TrimSettings R} {dac : Nat} {pass : Trim.Pass}
    {outcome : Trim.PassOutcome R}
    (h : Trim.PassRun bench trims dac pass context (.ok outcome) entries after)
    (htrimMid : context.trimMid = trims.mid) : after.LevelsReadIn dac entries := by
  cases h with
  | @done regions deviceEff settled searches settles between last search hmedian settle =>
    obtain rfl : between = (cleared context).replay searches := regions_replay search
    have hlast := settles_replay settle
    constructor
    · intro mid hmid
      obtain rfl : midOf regions deviceEff = mid := by
        rw [hlast] at hmid
        exact Option.some.inj hmid
      have hread := (midOf_readIn search hmedian).mono (List.subset_append_left searches settles)
      rw [← htrimMid] at hread
      rw [hlast]
      exact hread.filled rfl rfl
    · intro channel result hresult
      obtain ⟨_, hsettled, hresult⟩ := exists_result hresult
      obtain ⟨found, before, own, later, _, _, hfound, rfl, rfl, hstep, _⟩ :=
        exists_settled settle hsettled
      have hread : result.ReadIn { last with trims := settled.map Settled.result } channel dac
          last.trimMid own := by
        refine hstep.readIn hresult hfound ?_ ?_ ?_ ?_
        all_goals rw [hlast]
        · rfl
        · rfl
        · rfl
        · exact htrimMid
      exact hread.mono fun entry hmem ↦ by simp [hmem]

/-! ## The last part of a run -/

/-- Readings at one value of the threshold register, whatever the trim. -/
def Remit.atRegister (dac : Nat) : Remit :=
  ⟨fun request ↦ ∃ trim, request.setting = .threshold dac trim, fun _ _ ↦ True⟩

theorem Remit.allows_atRegister (dac trim : Nat) :
    (Remit.atRegister dac).Allows (.threshold dac trim) := fun _ _ ↦ ⟨trim, rfl⟩

/-- The run so far is `earlier ++ last`, and what is on record was read in the last part, in which
the threshold register was not moved. -/
structure Context.MeasuredAt (context : Context R) (start : ChannelMask) (margin : R)
    (constants : ThresholdConstants R) (earlier last : Journal) : Prop where
  mask : context.mask = start.replay (earlier ++ last)
  requests : ∀ request ∈ last.requests, ∃ trim, request.setting = .threshold constants.dac trim
  realized : last.HasLevel context.spec (start.replay earlier) margin
    (.threshold constants.dac context.trimMid) constants.realized
  levels : context.LevelsReadIn constants.dac last

section

variable {start : ChannelMask} {margin : R} {constants : ThresholdConstants R}
  {earlier last : Journal}

/-- Readings at the register as it is extend the last part. -/
theorem Context.MeasuredAt.extend {filled : Context R}
    (h : context.MeasuredAt start margin constants earlier last)
    (hlater : context.Follows (.atRegister constants.dac) later filled)
    (hlevels : filled.LevelsReadIn constants.dac later) :
    filled.MeasuredAt start margin constants earlier (last ++ later) where
  mask := by rw [hlater.mask, h.mask, ← ChannelMask.replay_append, List.append_assoc]
  requests request hmem := by
    rw [Journal.requests_append, List.mem_append] at hmem
    rcases hmem with hmem | hmem
    · exact h.requests request hmem
    · exact hlater.within.request hmem
  realized := by
    rw [hlater.spec, hlater.trimMid]
    exact h.realized.append_right later
  levels := hlevels.mono (List.subset_append_right last later)

/-- Readings at a register that was moved make a new last part, and everything has to be among
them. -/
theorem Context.measuredAt_of_moved {filled : Context R}
    (hmask : context.mask = start.replay earlier)
    (hlast : context.Follows (.atRegister constants.dac) last filled)
    (hrealized : last.HasLevel context.spec context.mask margin
      (.threshold constants.dac context.trimMid) constants.realized)
    (hlevels : filled.LevelsReadIn constants.dac last) :
    filled.MeasuredAt start margin constants earlier last where
  mask := by rw [hlast.mask, hmask, ChannelMask.replay_append]
  requests _ hmem := hlast.within.request hmem
  realized := by
    rw [hlast.spec, hlast.trimMid, ← hmask]
    exact hrealized
  levels := hlevels

/-- Whether the device counts as resolved says nothing about its records. -/
theorem Context.MeasuredAt.resolved (h : context.MeasuredAt start margin constants earlier last) :
    Context.MeasuredAt { context with status := .resolved } start margin constants earlier
      last where
  mask := h.mask
  requests := h.requests
  realized := h.realized
  levels := by
    refine ⟨fun mid hmid ↦ (h.levels.mid mid hmid).filled rfl rfl, fun channel result hresult ↦ ?_⟩
    obtain ⟨htrimmed, hleft⟩ := h.levels.trim channel result hresult
    exact ⟨htrimmed, hleft⟩

/-- Solving reads nothing but the level; there are no other records yet. -/
theorem Threshold.Solved.measuredAt {thresholds : ThresholdSettings R}
    (h : Solved bench thresholds context (.ok constants) entries) (hfits : context.Fits)
    (hmask : context.mask = start.replay earlier) (hmid : context.mid = none)
    (htrims : ∀ channel, context.trim channel = none) :
    ∃ fit verify, entries = fit ++ verify ∧
      Context.MeasuredAt { context with threshold := some constants } start thresholds.guessMarginMv
        constants (earlier ++ fit) verify := by
  cases h with
  | @solved _ _ dac _ _ fit verify _ hprobe hfit _ hverify =>
    refine ⟨fit, verify, rfl, ?_⟩
    have hfitted : context.Follows .any fit context :=
      hfit.follows hfits hprobe fun _ _ _ _ ↦ trivial
    have hverified : context.Follows (.atRegister dac) verify context :=
      hverify.follows hfits hprobe (Remit.allows_atRegister dac _)
    refine Context.measuredAt_of_moved ?_ (hverified.filled rfl rfl rfl rfl)
      (hverify.hasLevel hfits hprobe rfl) ⟨fun mid h ↦ ?_, fun channel result h ↦ ?_⟩
    · rw [ChannelMask.replay_append, ← hmask]
      exact hfitted.mask
    · rw [hmid] at h
      cases h
    · exact absurd ((htrims channel).symm.trans h) nofun

/-- As long as there are no trims, the thresholds at mid trim are all there is to measure. -/
theorem Threshold.MidMeasured.levelsReadIn {dac : Nat} {mid : MidTrim R}
    (h : MidMeasured bench dac context (.ok mid) entries after)
    (htrims : ∀ channel, context.trim channel = none)
    (threshold : Option (ThresholdConstants R)) :
    Context.LevelsReadIn { after with threshold, mid := some mid } dac entries := by
  rw [h.replay]
  refine ⟨?_, fun channel result hresult ↦ ?_⟩
  · rintro _ ⟨⟩
    exact h.readIn.filled rfl rfl
  · exact absurd ((htrims channel).symm.trans hresult) nofun

/-- Measured at a raised register, the device has a new last part. -/
theorem Threshold.measuredAt_of_raised {dac : Nat} {realized : R} {mid : MidTrim R}
    {probe : Journal} {measured : Context R} (hmask : context.mask = start.replay earlier)
    (hfits : context.Fits)
    (htrims : ∀ channel, context.trim channel = none)
    (hmid : MidMeasured bench dac context (.ok mid) entries measured)
    (hprobe : RealizedRead bench dac measured (.ok realized) probe) (notices : List Notice) :
    Context.MeasuredAt
      { measured with threshold := some { constants with dac, realized }, mid := some mid } start
      margin { constants with dac, realized } earlier
      (entries ++ probe ++ notices.map .notice) := by
  have hmeasured : context.Follows (.atRegister dac) entries measured :=
    hmid.follows (Remit.allows_atRegister _ _) fun _ ↦ trivial
  have hprobed : measured.Follows (.atRegister dac) probe measured :=
    hprobe.follows (hmeasured.fits hfits) (Remit.allows_atRegister _ _)
  have hlast := (hmeasured.trans hprobed).trans (Context.follows_notices notices)
  refine Context.measuredAt_of_moved hmask (hlast.filled rfl rfl rfl rfl) ?_ ?_
  · -- the probe is read when the channels have been, so some may be masked by then
    have hlevel : probe.HasLevel measured.spec measured.mask margin
        (.threshold dac measured.trimMid) realized := hprobe.hasLevel (hmeasured.fits hfits)
    rw [hmeasured.mask, hmeasured.spec, hmeasured.trimMid] at hlevel
    exact hlevel.append_left.append_right _
  · refine (hmid.levelsReadIn htrims _).mono ?_
    rw [List.append_assoc]
    exact List.subset_append_left _ _

/-- The check measures everything again when it raises the register. -/
theorem Threshold.MarginChecked.measuredAt {thresholds : ThresholdSettings R} {mid : MidTrim R}
    (h : MarginChecked bench thresholds context (.ok mid) entries after)
    (hmeasured : context.MeasuredAt start margin constants earlier last)
    (hthreshold : context.threshold = some constants) (hfits : context.Fits)
    (htrims : ∀ channel, context.trim channel = none) :
    ∃ checked earlier' last', after.threshold = some checked ∧
      earlier ++ last ++ entries = earlier' ++ last' ∧
      after.MeasuredAt start margin checked earlier' last' := by
  cases h with
  | @kept kept mid _ measured hkept first =>
    obtain rfl := Option.some.inj (hthreshold.symm.trans hkept)
    have hfollows : context.Follows (.atRegister constants.dac) entries measured :=
      first.follows (Remit.allows_atRegister _ _) fun _ ↦ trivial
    refine ⟨constants, earlier, last ++ entries, ?_, List.append_assoc .., hmeasured.extend
      (hfollows.filled rfl rfl rfl rfl) (first.levelsReadIn htrims _)⟩
    rw [first.replay]
    exact hthreshold
  | @raised _ _ _ _ _ before _ _ _ _ _ _ _ _ first _ second hprobe =>
    have hfirst := first.replay
    -- what was measured at the register before it was raised is history
    refine ⟨_, earlier ++ last ++ before ++ [.notice .raisingForMargin], _, rfl, ?_,
      measuredAt_of_raised ?_ ?_ ?_ second hprobe
        (marginNotices thresholds context.spec.flavor mid)⟩
    · simp
    · rw [hfirst, ChannelMask.replay_append, ChannelMask.replay_append, ← hmeasured.mask]
      rfl
    · rw [hfirst]
      exact ChannelMask.length_reasons_replay.trans hfits
    · rw [hfirst]
      exact htrims

/-- A second pass reads everything again, its own register value included. -/
theorem Trim.Optimized.measuredAt {trims : TrimSettings R}
    (h : Optimized bench trims context (.ok ()) entries after)
    (hmeasured : context.MeasuredAt start margin constants earlier last)
    (hthreshold : context.threshold = some constants) (hfits : context.Fits)
    (htrimMid : context.trimMid = trims.mid) :
    ∃ final earlier' last', after.threshold = some final ∧
      earlier ++ last ++ entries = earlier' ++ last' ∧
      after.MeasuredAt start margin final earlier' last' := by
  cases h with
  | @once kept outcome pass _ hkept first =>
    obtain rfl := Option.some.inj (hthreshold.symm.trans hkept)
    have hpass : context.Follows (.atRegister constants.dac) pass after :=
      first.follows (fun _ _ ↦ Remit.allows_atRegister _ _) (fun _ ↦ trivial) fun _ ↦ trivial
    refine ⟨constants, earlier, _, ?_, List.append_assoc .., hmeasured.extend
      (hpass.trans (Context.follows_notices (outcomeNotices trims outcome))) ?_⟩
    · rw [first.replay]
      exact hthreshold
    · exact (first.levelsReadIn htrimMid).mono (List.subset_append_left _ _)
  | @again kept outcome _ dac realized pass probe second between _ hkept first _ hdac hprobe
      again =>
    have hpass : context.Follows .any pass between :=
      first.follows (fun _ _ _ _ ↦ trivial) (fun _ ↦ trivial) fun _ ↦ trivial
    have hprobed : between.Follows (.atRegister dac) probe
        (reentered between kept dac realized) :=
      (hprobe.follows (hpass.fits hfits) (Remit.allows_atRegister _ _)).filled rfl rfl rfl rfl
    have hagain : (reentered between kept dac realized).Follows (.atRegister dac) second after :=
      again.follows (fun _ _ ↦ Remit.allows_atRegister _ _) (fun _ ↦ trivial) fun _ ↦ trivial
    -- the first pass is history, the records of the second replace its own
    refine ⟨{ kept with dac, realized }, earlier ++ last ++ pass, probe ++ second, ?_, ?_,
      Context.measuredAt_of_moved ?_ (hprobed.trans hagain) ?_ ?_⟩
    · rw [again.replay]
      rfl
    · simp
    · rw [hpass.mask, hmeasured.mask, ← ChannelMask.replay_append]
    · exact (hprobe.hasLevel (hpass.fits hfits)).append_right second
    · exact (again.levelsReadIn (hpass.trimMid.trans htrimMid)).mono
        (List.subset_append_right _ _)

end

/-! ## Whole runs -/

namespace Calibration

variable {geometry : Geometry} {mode : Mode} {constants : ThresholdConstants R}

/-- After the margin check everything is on record that a trim stage could spoil. -/
theorem checked_measuredAt {start : ChannelMask} {earlier entries later last : Journal}
    {between : Context R} {verdict : Classification} {solved : ThresholdConstants R}
    {mid : MidTrim R}
    (hclassify : Classified settings.classifier context verdict entries between)
    (hsolve : Threshold.Solved bench settings.threshold between (.ok solved) later)
    (hcheck : Threshold.MarginChecked bench settings.threshold
      { between with threshold := some solved } (.ok mid) last after)
    (hmask : context.mask = start.replay earlier) (hfits : context.Fits) (hmid : context.mid = none)
    (htrims : ∀ channel, context.trim channel = none) :
    ∃ checked earlier' last', after.threshold = some checked ∧
      earlier ++ (entries ++ later ++ last) = earlier' ++ last' ∧
      after.MeasuredAt start settings.threshold.guessMarginMv checked earlier' last' := by
  have hclassified : context.Follows .any entries between := hclassify.follows fun _ ↦ trivial
  have hreplay := hclassify.replay
  have hbetween : between.mid = none ∧ ∀ channel, between.trim channel = none := by
    rw [hreplay]
    exact ⟨hmid, htrims⟩
  have hmask : between.mask = start.replay (earlier ++ entries) := by
    rw [hclassified.mask, hmask, ChannelMask.replay_append]
  obtain ⟨fit, verify, rfl, hmeasured⟩ :=
    hsolve.measuredAt (hclassified.fits hfits) hmask hbetween.1 hbetween.2
  obtain ⟨checked, earlier', last', hchecked, hsplit, hmeasured⟩ :=
    hcheck.measuredAt hmeasured rfl (hclassified.fits hfits) hbetween.2
  exact ⟨checked, earlier', last', hchecked, by simpa using hsplit, hmeasured⟩

/-- A register value resolved comes with a last part of the run in which all was read. -/
theorem Continued.measuredAt {start : ChannelMask} {earlier : Journal}
    (h : Continued bench settings mode context (.ok ()) entries after)
    (hmask : context.mask = start.replay earlier) (hfits : context.Fits)
    (hthreshold : context.threshold = none) (hmid : context.mid = none)
    (htrims : ∀ channel, context.trim channel = none)
    (htrimMid : context.trimMid = settings.trim.mid)
    (hconstants : after.threshold = some constants) :
    ∃ earlier' last, earlier ++ entries = earlier' ++ last ∧
      after.MeasuredAt start settings.threshold.guessMarginMv constants earlier' last := by
  cases h with
  | baseline _ classify =>
    rw [classify.replay] at hconstants
    exact absurd (hthreshold.symm.trans hconstants) nofun
  | threshold _ classify solve check =>
    obtain ⟨checked, earlier', last, hchecked, hsplit, hmeasured⟩ :=
      checked_measuredAt classify solve check hmask hfits hmid htrims
    obtain rfl := Option.some.inj (hchecked.symm.trans hconstants)
    exact ⟨earlier', last, hsplit, hmeasured⟩
  | @trim _ _ _ _ _ _ _ _ _ checked _ _ classify solve check optimize =>
    obtain ⟨constants, earlier', last, hchecked, hsplit, hmeasured⟩ :=
      checked_measuredAt classify solve check hmask hfits hmid htrims
    have hpermits : Permits .any settings mode := permits_any
    have hsolved := solved_follows classify solve hpermits hfits htrimMid
    have hfollows := hsolved.trans (checked_follows check (solved_dac solve) hpermits
      (hsolved.fits hfits) (hsolved.trimMid.trans htrimMid))
    obtain ⟨final, earlier'', last', hfinal, hsplit', hmeasured⟩ :=
      optimize.measuredAt hmeasured hchecked (hfollows.fits hfits) (hfollows.trimMid.trans htrimMid)
    obtain rfl := Option.some.inj (hfinal.symm.trans hconstants)
    refine ⟨earlier'', last', ?_, hmeasured⟩
    rw [← hsplit', ← hsplit]
    simp

/-- What a run that resolved its register has on record was read in the last part of the run, in
which the register was not moved any more. -/
theorem reported_levels_belong_to_final_dac (bench : Bench σ R) (geometry : Geometry)
    (settings : Settings R) (mode : Mode) (spec : DeviceSpec) (link : Link σ)
    (hconstants : (calibrate bench geometry settings mode spec link).context.threshold =
      some constants) :
    ∃ earlier last, (calibrate bench geometry settings mode spec link).link.journal =
        link.journal ++ (earlier ++ last) ∧
      (calibrate bench geometry settings mode spec link).context.spec = spec ∧
      (calibrate bench geometry settings mode spec link).context.trimMid = settings.trim.mid ∧
      (calibrate bench geometry settings mode spec link).context.MeasuredAt
        (ChannelMask.new spec.channels) settings.threshold.guessMarginMv constants earlier
        last := by
  obtain ⟨entries, hjournal, hcourse⟩ := exists_course bench geometry settings mode spec link
  rw [hjournal]
  generalize (calibrate bench geometry settings mode spec link).context = final
    at hcourse hconstants
  cases hcourse with
  | masked => cases hconstants
  | resolved stages =>
    have hfollows := stages.follows Baseline.permits_any permits_any
    cases stages with
    | @measured _ _ sampling _ between _ sample rest =>
      have hsample : (start settings spec).Follows .any sampling between :=
        sample.follows Baseline.permits_any fun channel _ ↦ isMasked_start channel
      have hrecords : between.threshold = none ∧ between.mid = none ∧
          ∀ channel, between.trim channel = none := by
        have hstart : ∀ channel, (start settings spec).trim channel = none := trim_start
        rw [sample.replay]
        exact ⟨rfl, rfl, hstart⟩
      obtain ⟨hthreshold, hmid, htrims⟩ := hrecords
      obtain ⟨earlier, last, hsplit, hmeasured⟩ := rest.measuredAt hsample.mask
        (hsample.fits fits_start) hthreshold hmid htrims hsample.trimMid hconstants
      exact ⟨earlier, last, by rw [hsplit], hfollows.spec, hfollows.trimMid, hmeasured.resolved⟩

theorem reported_levels_belong_to_final_dac_exact :
    ∃ constants, Exact.run.context.threshold = some constants ∧
      ∃ earlier last, Exact.run.link.journal = (Link.new ()).journal ++ (earlier ++ last) ∧
        Exact.run.context.spec = Exact.spec ∧
        Exact.run.context.trimMid = Exact.settings.trim.mid ∧
        Exact.run.context.MeasuredAt (ChannelMask.new Exact.spec.channels)
          Exact.settings.threshold.guessMarginMv constants earlier last := by
  have hsome : Exact.run.context.threshold.isSome = true := by cbv
  obtain ⟨constants, hconstants⟩ := Option.isSome_iff_exists.mp hsome
  exact ⟨constants, hconstants, reported_levels_belong_to_final_dac _ _ _ _ _ _ hconstants⟩

end Calibration

end ThresholdTrim
