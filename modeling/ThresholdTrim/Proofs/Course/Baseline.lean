import ThresholdTrim.Baseline
import ThresholdTrim.Classification
import ThresholdTrim.Proofs.Course.Sampling

/-!
# Courses of the first two stages

Baseline sampling visits the channels in order. The classifier reads nothing; it goes by the
records.
-/

namespace ThresholdTrim

variable {σ R : Type} [Scalar R] {bench : Bench σ R} {geometry : Geometry} {context : Context R}

namespace Baseline

/-- One channel visited. A batch always has a record unless pruning leaves nothing of it. -/
inductive Visited (bench : Bench σ R) (geometry : Geometry) :
    Nat → Context R → Unit → Journal → Context R → Prop
  | unconnected {channel : Nat} {context : Context R}
    (hgeometry : geometry.isUnconnected (context.channelKey channel) = true) :
    Visited bench geometry channel context () [.masked channel .unconnected]
      (context.withMask (context.mask.mask channel .unconnected))
  | measured {channel : Nat} {context : Context R} {batch : List Nat} {entries : Journal}
    {record : BaselineRecord R}
    (hgeometry : geometry.isUnconnected (context.channelKey channel) = false)
    (acquired : Sampler.Acquired bench
      ⟨context.channelKey channel, .baseline, bench.sampling.oversampled⟩ (.ok batch) entries)
    (hrecord : BaselineRecord.ofBatch batch bench.sampling.pruneCutoffMv context.spec.flavor =
      some record) :
    Visited bench geometry channel context () entries
      { context with baselines := context.baselines.set channel record }
  | pruned {channel : Nat} {context : Context R} {batch : List Nat} {entries : Journal}
    (hgeometry : geometry.isUnconnected (context.channelKey channel) = false)
    (acquired : Sampler.Acquired bench
      ⟨context.channelKey channel, .baseline, bench.sampling.oversampled⟩ (.ok batch) entries)
    (hrecord : BaselineRecord.ofBatch batch bench.sampling.pruneCutoffMv context.spec.flavor =
      none) :
    Visited bench geometry channel context () (entries ++ [.masked channel .noData])
      (context.withMask (context.mask.mask channel .noData))
  | failed {channel : Nat} {context : Context R} {cause : CalibrationError R} {entries : Journal}
    (hgeometry : geometry.isUnconnected (context.channelKey channel) = false)
    (acquired : Sampler.Acquired bench
      ⟨context.channelKey channel, .baseline, bench.sampling.oversampled⟩ (.error cause) entries) :
    Visited bench geometry channel context ()
      (entries ++ [.notice .noBaseline, .masked channel .noData])
      (context.withMask (context.mask.mask channel .noData))

theorem visit_yields (channel : Nat) (context : Context R) :
    (visit bench geometry channel).Yields context (Visited bench geometry channel context) := by
  refine Stage.ensures_bind (Stage.ensures_context ?_)
  dsimp only
  split
  · rename_i hgeometry
    exact Stage.ensures_mask ⟨(), rfl, .unconnected hgeometry⟩
  · rename_i hgeometry
    rw [Bool.not_eq_true] at hgeometry
    refine Stage.ensures_bind (Stage.ensures_context ?_)
    refine Stage.ensures_bind (Stage.ensures_attempt (Stage.ensures_sample ?_))
    refine Sampler.acquire_ensures.mono ?_
    rintro (cause | batch) entries hacquired
    · refine Stage.ensures_bind (Stage.ensures_note ?_)
      refine Stage.ensures_bind (Stage.ensures_pure ?_)
      exact Stage.ensures_mask ⟨(), rfl, .failed hgeometry hacquired⟩
    · refine Stage.ensures_bind (Stage.ensures_pure ?_)
      dsimp only
      cases hrecord : BaselineRecord.ofBatch batch bench.sampling.pruneCutoffMv
          context.spec.flavor with
      | none => exact Stage.ensures_mask ⟨(), rfl, .pruned hgeometry hacquired hrecord⟩
      | some record =>
        refine Stage.ensures_update ⟨(), rfl, ?_⟩
        simpa using Visited.measured hgeometry hacquired hrecord

/-- All channels visited, and the device baseline taken over those that were measured. -/
inductive Sampled (bench : Bench σ R) (geometry : Geometry) (context : Context R) :
    Except (CalibrationError R) (DeviceBaseline R) → Journal → Context R → Prop
  | measured {units : List Unit} {entries : Journal} {after : Context R}
    {device : DeviceBaseline R}
    (visits : Chain (Visited bench geometry) (List.range context.spec.channels) context units
      entries after) (hdevice : DeviceBaseline.ofRecords after.baselines = some device) :
    Sampled bench geometry context (.ok device) entries
      { after with deviceBaseline := some device }
  | unmeasured {units : List Unit} {entries : Journal} {after : Context R}
    (visits : Chain (Visited bench geometry) (List.range context.spec.channels) context units
      entries after) (hdevice : DeviceBaseline.ofRecords after.baselines = none) :
    Sampled bench geometry context (.error .noData) entries after

theorem sampleAll_ensures (context : Context R) :
    (sampleAll bench geometry).Ensures context (Sampled bench geometry context) := by
  refine Stage.ensures_bind (Stage.ensures_context ?_)
  refine Stage.ensures_bind ((Stage.yields_forM visit_yields _).mono ?_)
  rintro _ entries after ⟨_, rfl, units, hvisits⟩
  refine Stage.ensures_bind (Stage.ensures_context ?_)
  refine Stage.ensures_bind (Stage.ensures_need (fun hnone ↦ ?_) fun device hdevice ↦ ?_)
  · simpa using Sampled.unmeasured hvisits hnone
  · refine Stage.ensures_bind (Stage.ensures_update (Stage.ensures_pure ?_))
    simpa using Sampled.measured hvisits hdevice

/-! ## What the visits keep -/

variable {channel : Nat} {channels : List Nat} {units : List Unit} {entries : Journal}
  {after : Context R} {remit : Remit}

/-- A remit for the visits: channels with a sensor may be asked for their baseline and masked when
there is none to be had, the others may be masked for having no sensor. -/
structure Permits (remit : Remit) (geometry : Geometry) (device : DeviceKey) : Prop where
  request : ∀ channel count, geometry.isUnconnected (device.channel channel) = false →
    remit.request ⟨device.channel channel, .baseline, count⟩
  unconnected : ∀ channel, geometry.isUnconnected (device.channel channel) = true →
    remit.masking channel .unconnected
  noData : ∀ channel, geometry.isUnconnected (device.channel channel) = false →
    remit.masking channel .noData

omit [Scalar R] in
theorem permits_any {device : DeviceKey} : Permits Remit.any geometry device :=
  ⟨fun _ _ _ ↦ trivial, fun _ _ ↦ trivial, fun _ _ ↦ trivial⟩

theorem Visited.follows (h : Visited bench geometry channel context () entries after)
    (hpermits : Permits remit geometry context.spec.key)
    (hinside : channel < context.spec.channels)
    (hunmasked : context.mask.isMasked channel = false) :
    context.Follows remit entries after := by
  have haddress : ∀ count, Request.Addresses ⟨context.channelKey channel, .baseline, count⟩
      context.spec context.mask := fun count ↦ ⟨rfl, hinside, hunmasked⟩
  cases h with
  | unconnected hgeometry => exact Context.follows_masked (hpermits.unconnected _ hgeometry)
  | measured hgeometry acquired hrecord =>
    have hread := acquired.asks.follows (haddress _) (hpermits.request _ _ hgeometry)
    exact hread.filled rfl rfl rfl rfl
  | pruned hgeometry acquired hrecord =>
    have hread := acquired.asks.follows (haddress _) (hpermits.request _ _ hgeometry)
    exact hread.trans (Context.follows_masked (hpermits.noData _ hgeometry))
  | failed hgeometry acquired =>
    have hread := acquired.asks.follows (haddress _) (hpermits.request _ _ hgeometry)
    refine hread.trans ((Context.follows_notice _).trans ?_)
    exact Context.follows_masked (hpermits.noData _ hgeometry)

/-- A visit fills in the mask and the baselines. -/
theorem Visited.replay (h : Visited bench geometry channel context () entries after) :
    after = { context.replay entries with baselines := after.baselines } := by
  cases h with
  | unconnected => rfl
  | measured _ acquired => rw [Context.replay_of_maskings_eq_nil acquired.asks.maskings]
  | pruned _ acquired | failed _ acquired =>
    rw [Context.replay_append, Context.replay_of_maskings_eq_nil acquired.asks.maskings]
    rfl

theorem visited_takesOne :
    TakesOne id id
      (Visited bench geometry : Nat → Context R → Unit → Journal → Context R → Prop) := by
  intro channel context _ entries after h
  refine ⟨?_, congrArg Context.mask h.replay⟩
  cases h with
  | unconnected => simp [Entry.Concerns]
  | measured _ acquired => exact acquired.asks.concerns
  | pruned _ acquired | failed _ acquired =>
    rw [Journal.concerns_append]
    exact ⟨acquired.asks.concerns, by simp [Entry.Concerns]⟩

theorem visits_follow (h : Chain (Visited bench geometry) channels context units entries after)
    (hpermits : Permits remit geometry context.spec.key) (hnodup : channels.Nodup)
    (hchannels : ∀ channel ∈ channels,
      channel < context.spec.channels ∧ context.mask.isMasked channel = false) :
    context.Follows remit entries after := by
  refine h.follows_each visited_takesOne (by rwa [List.map_id]) ?_
  intro channel hmem before k₁ _ own k₂ hbefore hreason hstep
  obtain ⟨hinside, hunmasked⟩ := hchannels channel hmem
  dsimp only [id] at hbefore hreason
  refine hstep.follows (hbefore.spec ▸ hpermits) (hbefore.spec ▸ hinside) ?_
  rwa [ChannelMask.isMasked, hreason]

theorem Sampled.follows {result : Except (CalibrationError R) (DeviceBaseline R)}
    (h : Sampled bench geometry context result entries after)
    (hpermits : Permits remit geometry context.spec.key)
    (hunmasked : ∀ channel < context.spec.channels, context.mask.isMasked channel = false) :
    context.Follows remit entries after := by
  have hvisits : ∀ {units entries after},
      Chain (Visited bench geometry) (List.range context.spec.channels) context units entries
        after → context.Follows remit entries after := by
    intro units entries after hchain
    refine visits_follow hchain hpermits List.nodup_range fun channel hmem ↦ ?_
    exact ⟨List.mem_range.mp hmem, hunmasked _ (List.mem_range.mp hmem)⟩
  cases h with
  | measured visits => exact (hvisits visits).filled rfl rfl rfl rfl
  | unmeasured visits => exact hvisits visits

theorem visits_replay (h : Chain (Visited bench geometry) channels context units entries after) :
    after = { context.replay entries with baselines := after.baselines } := by
  induction h with
  | nil => rfl
  | cons head _ ih =>
    rw [ih, Context.replay_append, head.replay]
    rfl

/-- A channel without a sensor has no baseline entered. -/
theorem Visited.baseline_of_unconnected {other : Nat}
    (h : Visited bench geometry other context () entries after)
    (hgeometry : geometry.isUnconnected (context.channelKey channel) = true) :
    after.baseline channel = context.baseline channel := by
  cases h with
  | unconnected | pruned | failed => rfl
  | measured hother =>
    have hne : other ≠ channel := by
      rintro rfl
      rw [hgeometry] at hother
      exact Bool.noConfusion hother
    rw [Context.baseline, Context.baseline, List.getElem?_set_ne hne]

/-- A channel without a sensor ends up masked for having none, with no baseline entered. -/
theorem visits_unconnected
    (h : Chain (Visited bench geometry) (List.range context.spec.channels) context units entries
      after) (hfits : context.Fits) (hunmasked : context.mask.isMasked channel = false)
    (hgeometry : geometry.isUnconnected (context.channelKey channel) = true)
    (hinside : channel < context.spec.channels) :
    after.mask.reason channel = some .unconnected ∧
      after.baseline channel = context.baseline channel := by
  constructor
  · obtain ⟨_, _, _, _, k₁, k₂, _, _, hown, hstart, hend, _, hbefore⟩ :=
      h.turn_range visited_takesOne hinside
    dsimp only [id] at hstart hend
    have hreplay := visits_replay hbefore
    have hspec : k₁.spec = context.spec := by
      rw [hreplay]
      rfl
    have hlength : k₁.mask.reasons.length = context.spec.channels := by
      rw [hreplay]
      exact ChannelMask.length_reasons_replay.trans hfits
    rw [hend]
    cases hown with
    | unconnected =>
      rw [Context.withMask, ChannelMask.reason_mask, if_pos, hstart,
        ChannelMask.reason_eq_none_iff.mpr hunmasked]
      · rfl
      · exact ⟨rfl, hlength ▸ hinside⟩
    | measured hother | pruned hother | failed hother =>
      rw [Context.channelKey, hspec, ← Context.channelKey, hgeometry] at hother
      exact Bool.noConfusion hother
  · -- no turn enters a baseline for it, its own included
    have hkeep := h.preserves
      (P := fun k ↦ k.spec = context.spec ∧ k.baseline channel = context.baseline channel)
    refine (hkeep (fun other _ k _ _ k' hstep hk ↦ ⟨?_, ?_⟩) ⟨rfl, rfl⟩).2
    · rw [hstep.replay]
      exact hk.1
    rw [hstep.baseline_of_unconnected _, hk.2]
    rwa [Context.channelKey, hk.1]

theorem Sampled.unconnected {result : Except (CalibrationError R) (DeviceBaseline R)}
    (h : Sampled bench geometry context result entries after) (hfits : context.Fits)
    (hunmasked : context.mask.isMasked channel = false)
    (hgeometry : geometry.isUnconnected (context.channelKey channel) = true)
    (hinside : channel < context.spec.channels) :
    after.mask.reason channel = some .unconnected ∧
      after.baseline channel = context.baseline channel := by
  cases h with
  | measured visits | unmeasured visits =>
    have hvisits := visits_unconnected visits hfits hunmasked hgeometry hinside
    exact hvisits

/-- Baseline sampling fills in the mask, the baselines and their aggregate. -/
theorem Sampled.replay {result : Except (CalibrationError R) (DeviceBaseline R)}
    (h : Sampled bench geometry context result entries after) :
    after = { context.replay entries with
      baselines := after.baselines, deviceBaseline := after.deviceBaseline } := by
  cases h with
  | measured visits | unmeasured visits => rw [visits_replay visits]

end Baseline

/-! ## Classification -/

/-- What is said about a channel suspected dead. -/
def ChannelClass.notices (c : ChannelClass) : List Notice :=
  if c.dead then [.deadChannel] else []

/-- One channel held against the device median. -/
inductive ClassifiedOne (settings : ClassifierSettings R) (deviceMedian : R) :
    Nat → Context R × Classification → Unit → Journal → Context R × Classification → Prop
  | unmeasured {channel : Nat} {context : Context R} {found : Classification}
    (hmeasured : (context.baseline channel).isMeasured = false) :
    ClassifiedOne settings deviceMedian channel (context, found) () [] (context, found)
  | hot {channel : Nat} {context : Context R} {found : Classification} {c : ChannelClass}
    (hmeasured : (context.baseline channel).isMeasured = true)
    (hclass : c = .of (context.baseline channel).median (context.baseline channel).rms
      deviceMedian context.spec.flavor settings) (hhot : c.hot = true) :
    ClassifiedOne settings deviceMedian channel (context, found) ()
      ([.notice .hotChannel, .masked channel .hot] ++ c.notices.map .notice)
      (context.withMask (context.mask.mask channel .hot), found.count c)
  | cold {channel : Nat} {context : Context R} {found : Classification} {c : ChannelClass}
    (hmeasured : (context.baseline channel).isMeasured = true)
    (hclass : c = .of (context.baseline channel).median (context.baseline channel).rms
      deviceMedian context.spec.flavor settings) (hhot : c.hot = false) :
    ClassifiedOne settings deviceMedian channel (context, found) () (c.notices.map .notice)
      (context, found.count c)

/-- What is said about the device. -/
def Classification.notices (found : Classification) : List Notice :=
  (if found.suspect then [.suspectDevice] else if found.degraded then [.degradedDevice] else [])
    ++ if found.samplingSuspect then [.noisyDevice] else []

/-- The classifier's pass over the device. -/
inductive Classified (settings : ClassifierSettings R) (context : Context R) :
    Classification → Journal → Context R → Prop
  | nothing (hdevice : context.deviceBaseline = none) : Classified settings context {} [] context
  | judged {device : DeviceBaseline R} {units : List Unit} {found : Classification}
    {entries : Journal} {after : Context R} (hdevice : context.deviceBaseline = some device)
    (channels : Chain (ClassifiedOne settings device.median) (List.range context.spec.channels)
      (context, {}) units entries (after, found)) :
    Classified settings context (found.judge settings)
      (entries ++ (found.judge settings).notices.map .notice)
      { after with classification := some (found.judge settings) }

theorem classifyOne_yields (settings : ClassifierSettings R) (deviceMedian : R)
    (found : Classification) (channel : Nat) (context : Context R) :
    (classifyOne settings deviceMedian found channel : Stage σ R _).Yields context
      fun found' entries after ↦ ClassifiedOne settings deviceMedian channel (context, found) ()
        entries (after, found') := by
  refine Stage.ensures_bind (Stage.ensures_context ?_)
  dsimp only
  split
  · rename_i hmeasured
    exact Stage.ensures_pure ⟨found, rfl, .unmeasured (by simpa using hmeasured)⟩
  · rename_i hmeasured
    have hmeasured : (context.baseline channel).isMeasured = true := by simpa using hmeasured
    split
    · rename_i hhot
      refine Stage.ensures_bind (Stage.ensures_note ?_)
      refine Stage.ensures_bind (Stage.ensures_mask ?_)
      refine Stage.ensures_note_if (Stage.ensures_pure ⟨_, rfl, ?_⟩)
      simpa [ChannelClass.notices, apply_ite] using ClassifiedOne.hot hmeasured rfl hhot
    · rename_i hhot
      rw [Bool.not_eq_true] at hhot
      refine Stage.ensures_note_if (Stage.ensures_pure ⟨_, rfl, ?_⟩)
      simpa [ChannelClass.notices, apply_ite] using ClassifiedOne.cold hmeasured rfl hhot

theorem classify_yields (settings : ClassifierSettings R) (context : Context R) :
    (classify settings : Stage σ R _).Yields context (Classified settings context) := by
  refine Stage.ensures_bind (Stage.ensures_context ?_)
  dsimp only
  split
  · rename_i hdevice
    exact Stage.ensures_pure ⟨_, rfl, .nothing hdevice⟩
  · rename_i device hdevice
    refine Stage.ensures_bind ((Stage.yields_foldlM (classifyOne_yields _ _) _ _).mono ?_)
    rintro _ entries after ⟨found, rfl, units, hchain⟩
    have hjudged := Classified.judged hdevice hchain
    dsimp only
    split
    · rename_i hsuspect
      refine Stage.ensures_bind (Stage.ensures_note ?_)
      refine Stage.ensures_note_if (Stage.ensures_bind (Stage.ensures_update ?_))
      refine Stage.ensures_pure ⟨_, rfl, ?_⟩
      simpa [Classification.notices, apply_ite, hsuspect] using hjudged
    · rename_i hsuspect
      split
      · rename_i hdegraded
        refine Stage.ensures_bind (Stage.ensures_note ?_)
        refine Stage.ensures_note_if (Stage.ensures_bind (Stage.ensures_update ?_))
        refine Stage.ensures_pure ⟨_, rfl, ?_⟩
        simpa [Classification.notices, apply_ite, hsuspect, hdegraded] using hjudged
      · rename_i hdegraded
        refine Stage.ensures_note_if (Stage.ensures_bind (Stage.ensures_update ?_))
        refine Stage.ensures_pure ⟨_, rfl, ?_⟩
        simpa [Classification.notices, apply_ite, hsuspect, hdegraded] using hjudged

/-! ## What the classifier keeps -/

variable {settings : ClassifierSettings R} {deviceMedian : R} {channel : Nat}
  {before after : Context R × Classification} {entries : Journal} {remit : Remit}

theorem ClassifiedOne.replay
    (h : ClassifiedOne settings deviceMedian channel before () entries after) :
    after.1 = before.1.replay entries := by
  cases h with
  | unmeasured => rfl
  | hot =>
    rw [Context.replay_append, Context.replay_of_maskings_eq_nil (Journal.maskings_notices _)]
    rfl
  | cold => rw [Context.replay_of_maskings_eq_nil (Journal.maskings_notices _)]

theorem ClassifiedOne.follows
    (h : ClassifiedOne settings deviceMedian channel before () entries after)
    (hhot : remit.masking channel .hot) : before.1.Follows remit entries after.1 := by
  rw [h.replay]
  refine Context.follows_replay ?_
  cases h with
  | unmeasured => trivial
  | hot =>
    exact Journal.within_append.mpr ⟨⟨trivial, hhot, trivial⟩, Journal.within_notices _⟩
  | cold => exact Journal.within_notices _

variable {context last : Context R} {verdict : Classification}

/-- The classifier masks channels and gives its verdict, no more. -/
theorem Classified.replay (h : Classified settings context verdict entries last) :
    last = { context.replay entries with classification := last.classification } := by
  cases h with
  | nothing => rfl
  | judged _ channels =>
    rw [Context.replay_append, Context.replay_of_maskings_eq_nil (Journal.maskings_notices _),
      ← channels.replay Prod.fst fun _ _ _ _ _ hstep ↦ hstep.replay]

theorem Classified.spec (h : Classified settings context verdict entries last) :
    last.spec = context.spec := by
  rw [h.replay]
  rfl

theorem Classified.fits (h : Classified settings context verdict entries last)
    (hfits : context.Fits) : last.Fits := by
  rw [h.replay]
  exact Context.fits_replay hfits

theorem Classified.follows (h : Classified settings context verdict entries last)
    (hhot : remit.Masks .hot) : context.Follows remit entries last := by
  cases h with
  | nothing => exact .refl
  | @judged _ _ found _ after _ channels =>
    have hchannels : context.Follows remit _ after := channels.follows Prod.fst
      fun channel _ _ _ _ _ _ _ hstep ↦ hstep.follows (hhot channel)
    have hjudged := hchannels.trans (Context.follows_notices (found.judge settings).notices)
    exact hjudged.filled rfl rfl rfl rfl

end ThresholdTrim
