import ThresholdTrim.Proofs.Course.Calibration

/-!
# Masked channels stay untouched

Masks are added in six loops, some of which run over channels that were in use when the loop
started. The mask along the journal settles the question for all of them at once: every reading is
within the remit of its stage, and no stage has a remit over channels out of use.

Channels without a sensor are the case that matters most. Baseline sampling masks them before
anything else could, and does not ask for them itself.
-/

namespace ThresholdTrim.Calibration

variable {σ R : Type} [Scalar R] {bench : Bench σ R} {geometry : Geometry} {settings : Settings R}
  {mode : Mode} {spec : DeviceSpec} {entries : Journal} {after final : Context R} {channel : Nat}

theorem baseline_start : (start settings spec).baseline channel = .unmeasured := by
  rw [Context.baseline, start, Context.new, List.getElem?_replicate]
  split <;> rfl

/-- A channel without a sensor is masked for that, has no baseline and is not asked for. -/
theorem sampled_unconnected {result : Except (CalibrationError R) (DeviceBaseline R)}
    (h : Baseline.Sampled bench geometry (start settings spec) result entries after)
    (hgeometry : geometry.isUnconnected (spec.key.channel channel) = true)
    (hinside : channel < spec.channels) :
    after.mask.reason channel = some .unconnected ∧ after.baseline channel = .unmeasured ∧
      ∀ request ∈ entries.requests, request.channel ≠ spec.key.channel channel := by
  obtain ⟨hreason, hbaseline⟩ :=
    h.unconnected fits_start (isMasked_start channel) hgeometry hinside
  refine ⟨hreason, hbaseline.trans baseline_start, fun request hmem heq ↦ ?_⟩
  -- a remit over the channels with a sensor, and no other
  have hpermits : Baseline.Permits
      ⟨fun request ↦ geometry.isUnconnected request.channel = false, fun _ _ ↦ True⟩ geometry
      spec.key := ⟨fun _ _ hconnected ↦ hconnected, fun _ _ ↦ trivial, fun _ _ ↦ trivial⟩
  have hfollows := h.follows hpermits fun channel _ ↦ isMasked_start channel
  have hconnected : geometry.isUnconnected request.channel = false :=
    hfollows.within.request hmem
  rw [heq, hgeometry] at hconnected
  exact Bool.noConfusion hconnected

theorem staged_unconnected {result : Except (CalibrationError R) Unit}
    (h : Staged bench geometry settings mode (start settings spec) result entries after)
    (hgeometry : geometry.isUnconnected (spec.key.channel channel) = true)
    (hinside : channel < spec.channels) :
    after.mask.reason channel = some .unconnected ∧ after.baseline channel = .unmeasured ∧
      ∀ request ∈ entries.requests, request.channel ≠ spec.key.channel channel := by
  cases h with
  | unmeasured sample => exact sampled_unconnected sample hgeometry hinside
  | measured sample rest =>
    obtain ⟨hreason, hbaseline, hrequests⟩ := sampled_unconnected sample hgeometry hinside
    have hsample := sample.follows Baseline.permits_any fun channel _ ↦ isMasked_start channel
    have hrest := rest.follows permits_any (hsample.fits fits_start) hsample.thdacMax
      hsample.trimMid
    refine ⟨?_, ?_, fun request hmem ↦ ?_⟩
    · rw [hrest.mask]
      exact ChannelMask.reason_replay_of_some hreason
    · rw [Context.baseline, rest.baselines]
      exact hbaseline
    · rw [Journal.requests_append, List.mem_append] at hmem
      rcases hmem with hmem | hmem
      · exact hrequests request hmem
      · -- by then the channel is masked
        have hne := hrest.within.ne_of_masked hreason hmem
        exact fun heq ↦ hne (heq ▸ rfl)

/-- How a run with these entries deals with masked channels. -/
structure LeavesMaskedAlone (geometry : Geometry) (spec : DeviceSpec) (entries : Journal)
    (final : Context R) : Prop where
  /-- Every call, retries included, is for a channel of the device that is in use at that moment. -/
  addresses : ∀ before request answer after, entries = before ++ .reading request answer :: after →
    request.Addresses spec ((ChannelMask.new spec.channels).replay before)
  /-- The mask the run ends with is the one its journal tells. -/
  mask : final.mask =
    if final.isFailed then ((ChannelMask.new spec.channels).replay entries).maskAll .deviceFailed
    else (ChannelMask.new spec.channels).replay entries
  /-- The reason a channel is first masked for is the one it ends with. -/
  firstReason : ∀ before after channel reason, entries = before ++ after →
    ((ChannelMask.new spec.channels).replay before).reason channel = some reason →
    final.mask.reason channel = some reason
  unconnected_iff : ∀ channel < spec.channels,
    (final.mask.reason channel = some .unconnected ↔
      geometry.isUnconnected (spec.key.channel channel) = true)
  /-- Without a sensor a channel is not sampled, and programmed as out of use. -/
  unconnected : ∀ channel < spec.channels,
    geometry.isUnconnected (spec.key.channel channel) = true →
      (∀ request ∈ entries.requests, request.channel ≠ spec.key.channel channel) ∧
      final.baseline channel = .unmeasured ∧ final.registers.channelTrim[channel]? = some 0 ∧
      final.registers.channelMask[channel]? = some true

omit [Scalar R] in
/-- A masked channel is programmed with trim 0 and its mask flag set. -/
theorem registers_of_masked {context : Context R} {reason : MaskReason}
    (hinside : channel < context.spec.channels)
    (hreason : context.mask.reason channel = some reason) :
    context.registers.channelTrim[channel]? = some 0 ∧
      context.registers.channelMask[channel]? = some true := by
  constructor
  · rw [Context.registers, List.getElem?_map, List.getElem?_range hinside, Option.map_some,
      Context.channelTrim, if_pos]
    rw [ChannelMask.isMasked, hreason]
    rfl
  · rw [ChannelMask.reason] at hreason
    rw [Context.registers, ChannelMask.flags, List.getElem?_map]
    cases hentry : context.mask.reasons[channel]? with
    | none => simp [hentry] at hreason
    | some entry => simp_all

/-- Only channels without a sensor are masked for not being connected. -/
theorem Staged.follows_unconnected {result : Except (CalibrationError R) Unit}
    (h : Staged bench geometry settings mode (start settings spec) result entries after) :
    (start settings spec).Follows ⟨fun _ ↦ True, fun channel reason ↦
      reason = .unconnected → geometry.isUnconnected (spec.key.channel channel) = true⟩ entries
      after := by
  refine h.follows ⟨?_, ?_, ?_⟩ ⟨?_, ?_, ?_, ?_, ?_, ?_⟩
  · exact fun _ _ _ ↦ trivial
  · exact fun _ hgeometry _ ↦ hgeometry
  · exact fun _ _ hreason ↦ nomatch hreason
  · exact fun _ _ _ _ ↦ trivial
  · exact fun _ _ _ _ ↦ trivial
  · exact fun _ _ _ _ _ _ _ ↦ trivial
  -- the later stages have reasons of their own
  all_goals exact fun _ hreason ↦ nomatch hreason

theorem staged_unconnected_iff {result : Except (CalibrationError R) Unit}
    (h : Staged bench geometry settings mode (start settings spec) result entries after)
    (hinside : channel < spec.channels) :
    after.mask.reason channel = some .unconnected ↔
      geometry.isUnconnected (spec.key.channel channel) = true := by
  constructor
  · intro hreason
    have hfollows := h.follows_unconnected
    rw [hfollows.mask] at hreason
    rcases ChannelMask.reason_replay hreason with hstart | hmem
    · rw [start, Context.new, ChannelMask.reason_new] at hstart
      cases hstart
    · exact hfollows.within.masking hmem rfl
  · intro hgeometry
    exact (staged_unconnected h hgeometry hinside).1

/-- What a run enters settles how it deals with masked channels, whether the device was given up in
the end or not. -/
theorem leavesMaskedAlone_of {result : Except (CalibrationError R) Unit} {later : Journal}
    (h : Staged bench geometry settings mode (start settings spec) result entries after)
    (hlater : ∀ remit, after.Follows remit later after) (hrequests : later.requests = [])
    (hmask : final.mask =
      if final.isFailed then after.mask.maskAll .deviceFailed else after.mask)
    (hspec : final.spec = after.spec) (hbaselines : final.baselines = after.baselines) :
    LeavesMaskedAlone geometry spec (entries ++ later) final := by
  have hfollows := h.follows_unconnected.trans (hlater _)
  have hkeep : ∀ {channel reason}, after.mask.reason channel = some reason →
      final.mask.reason channel = some reason := by
    intro channel reason hreason
    rw [hmask]
    split
    · exact ChannelMask.reason_maskAll_of_some hreason
    · exact hreason
  refine ⟨?_, ?_, ?_, ?_, ?_⟩
  · intro before request answer rest heq
    have hwithin := hfollows.within
    rw [heq] at hwithin
    exact hwithin.reading.1
  · rw [hmask, hfollows.mask]
    rfl
  · intro before rest channel reason heq hreason
    apply hkeep
    rw [hfollows.mask, heq, ChannelMask.replay_append]
    exact ChannelMask.reason_replay_of_some hreason
  · intro channel hinside
    rw [← staged_unconnected_iff h hinside]
    refine ⟨fun hreason ↦ ?_, hkeep⟩
    rw [hmask] at hreason
    split at hreason
    · -- a device given up masks the rest for that
      exact (ChannelMask.reason_maskAll_eq_some hreason).resolve_right nofun
    · exact hreason
  · intro channel hinside hgeometry
    obtain ⟨hreason, hbaseline, hasked⟩ := staged_unconnected h hgeometry hinside
    refine ⟨?_, ?_, registers_of_masked ?_ (hkeep hreason)⟩
    · rwa [Journal.requests_append, hrequests, List.append_nil]
    · rw [Context.baseline, hbaselines]
      exact hbaseline
    · rw [hspec, hfollows.spec]
      exact hinside

/-- Masked channels are not touched again, whatever the front-end answers. -/
theorem masked_channels_stay_untouched (bench : Bench σ R) (geometry : Geometry)
    (settings : Settings R) (mode : Mode) (spec : DeviceSpec) (link : Link σ) :
    ∃ entries, (calibrate bench geometry settings mode spec link).link.journal =
        link.journal ++ entries ∧
      LeavesMaskedAlone geometry spec entries
        (calibrate bench geometry settings mode spec link).context := by
  obtain ⟨entries, hjournal, hcourse⟩ := exists_course bench geometry settings mode spec link
  refine ⟨entries, hjournal, ?_⟩
  generalize (calibrate bench geometry settings mode spec link).context = final at hcourse
  cases hcourse with
  | resolved stages =>
    rw [← List.append_nil entries]
    exact leavesMaskedAlone_of stages (fun _ ↦ .refl) rfl rfl rfl rfl
  | masked stages =>
    exact leavesMaskedAlone_of stages (fun _ ↦ Context.follows_notice _) rfl rfl rfl rfl

end ThresholdTrim.Calibration
