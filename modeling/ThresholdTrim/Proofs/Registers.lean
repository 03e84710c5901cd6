import ThresholdTrim.Proofs.Course.Calibration
import ThresholdTrim.Proofs.Exact
import ThresholdTrim.Proofs.Settings

/-!
# Register values stay in range

A register value is a guess point, an inverted fit, one of the two raises, a trim point of the
settings or the trim chosen for a channel. Validation bounds the points. The others are computed,
partly by divisions that may fail, and are bounded where they become register values again.
-/

namespace ThresholdTrim

open Scalar

variable {σ R : Type} [Scalar R] {bench : Bench σ R} {geometry : Geometry} {settings : Settings R}
  {mode : Mode} {spec : DeviceSpec} {context after final : Context R} {entries : Journal}
  {channel : Nat}

/-! ## Computed values -/

section

variable [RegisterScalar R]

theorem Threshold.invertTarget_le {line : Line R} {target : R} {thdacMax dac : Nat}
    (hmax : thdacMax ≤ maxRegister) (h : invertTarget line target thdacMax = .ok dac) :
    dac ≤ thdacMax := by
  rw [invertTarget] at h
  split at h
  · cases h
  rename_i hfinite
  split at h
  · cases h
  rename_i hrange
  obtain rfl := Except.ok.inj h
  rw [Bool.not_eq_true, Bool.or_eq_false_iff] at hrange
  exact RegisterScalar.toNat_le hmax
    (RegisterScalar.le_of_not_lt hmax (by simpa using hfinite) hrange.2)

theorem Calibration.RunDac.le {thresholds : ThresholdSettings R} {dac : Nat}
    (h : RunDac thresholds dac) (hmax : thresholds.thdacMax ≤ maxRegister) :
    dac ≤ thresholds.thdacMax := by
  cases h with
  | solved hdac => exact Threshold.invertTarget_le hmax hdac
  | margin | bumps => exact toNat_smaller_le hmax

theorem Trim.chooseTrim_le {channelEff deviceEff slope : R} {mid top : Nat}
    (hmax : top ≤ maxRegister) : chooseTrim channelEff deviceEff slope mid top ≤ top := by
  rw [chooseTrim]
  split
  · exact Nat.min_le_right _ _
  · rename_i hfinite
    exact toNat_clampTo_le hmax (by simpa using hfinite)

theorem Trim.le_of_mem_highPoints {mid high trim : Nat} (h : trim ∈ highPoints mid high) :
    trim ≤ high := by
  obtain ⟨k, _, rfl⟩ := List.mem_map.mp h
  exact Nat.sub_le _ _

theorem Trim.PassTrim.le {trims : TrimSettings R} {trim : Nat} (h : PassTrim trims trim)
    (hlow : trims.low ≤ trims.trimMax) (hmid : trims.mid ≤ trims.trimMax)
    (hmax : trims.trimMax ≤ maxRegister) : trim ≤ trims.trimMax := by
  have hpoint : ∀ {trim}, trim ∈ highPoints trims.mid (min trims.high trims.trimMax) →
      trim ≤ trims.trimMax :=
    fun h ↦ (le_of_mem_highPoints h).trans (Nat.min_le_right _ _)
  cases h with
  | low => exact hlow
  | mid => exact hmid
  | high hmem => exact hpoint hmem
  | chosen _ _ _ hmem =>
    have htop := hpoint hmem
    exact (chooseTrim_le (htop.trans hmax)).trans htop

end

/-! ## Recorded values -/

theorem Trim.PassRun.bestTrim {trims : TrimSettings R} {dac : Nat} {pass : Trim.Pass}
    {outcome : Trim.PassOutcome R}
    (h : Trim.PassRun bench trims dac pass context (.ok outcome) entries after)
    {result : TrimResult R}
    (hresult : after.trim channel = some result) : Trim.PassTrim trims result.bestTrim := by
  cases h with
  | done search _ settle =>
    obtain ⟨settled, hsettled, hresult⟩ := Trim.exists_result hresult
    obtain ⟨found, _, _, _, _, _, hfound, _, _, hstep, _⟩ := Trim.exists_settled settle hsettled
    cases hstep with
    | absent => cases hresult
    | leftAtMid =>
      obtain rfl := Option.some.inj hresult
      exact .mid
    | tried husable settle =>
      obtain ⟨_, _, _, _, _, _, _, _, hsearch⟩ := Trim.exists_search search hfound
      have hpoint := hsearch.region.2.resolve_left (Trim.trimMax_ne_zero husable)
      cases settle with
      | unread | below => cases hresult
      | short | aligned =>
        obtain rfl := Option.some.inj hresult
        exact .chosen _ _ _ hpoint

/-- What a context records was chosen in the run. -/
structure Context.RecordsRun (context : Context R) (settings : Settings R) : Prop where
  dac : ∀ constants, context.threshold = some constants →
    Calibration.RunDac settings.threshold constants.dac
  trim : ∀ channel result, context.trim channel = some result →
    Trim.PassTrim settings.trim result.bestTrim

/-- Optimizing records a raised register with the trims of the second pass, and only then. -/
theorem Trim.Optimized.recordsRun
    (h : Trim.Optimized bench settings.trim context (.ok ()) entries after)
    (hdac : ∀ constants, context.threshold = some constants →
      Calibration.RunDac settings.threshold constants.dac)
    (hthdacMax : context.thdacMax = settings.threshold.thdacMax) : after.RecordsRun settings := by
  cases h with
  | once _ first =>
    refine ⟨fun constants h ↦ hdac constants ?_, fun channel result h ↦ first.bestTrim h⟩
    rwa [first.replay] at h
  | @again constants outcome _ dac _ _ _ _ between _ _ first _ hraised _ second =>
    -- the register the bumps ask for replaces the one of the margin check
    have hraised : Calibration.RunDac settings.threshold dac := by
      have hbetween : between.thdacMax = settings.threshold.thdacMax := by
        rw [first.replay]
        exact hthdacMax
      rw [hraised, hbetween]
      exact .bumps constants outcome.bumps
    refine ⟨fun constants h ↦ ?_, fun channel result h ↦ second.bestTrim h⟩
    rw [second.replay] at h
    obtain rfl := Option.some.inj h
    exact hraised

theorem Calibration.Continued.recordsRun
    (h : Continued bench settings mode context (.ok ()) entries after)
    (hthreshold : context.threshold = none) (htrims : ∀ channel, context.trim channel = none)
    (hthdacMax : context.thdacMax = settings.threshold.thdacMax) : after.RecordsRun settings := by
  have hclassified : ∀ {verdict entries after},
      Classified settings.classifier context verdict entries after →
        after.threshold = none ∧ ∀ channel, after.trim channel = none := by
    intro verdict entries after h
    rw [h.replay]
    exact ⟨hthreshold, htrims⟩
  cases h with
  | baseline _ classify =>
    obtain ⟨hthreshold, htrims⟩ := hclassified classify
    refine ⟨fun constants h ↦ ?_, fun channel result h ↦ ?_⟩
    · rw [hthreshold] at h
      cases h
    · rw [htrims] at h
      cases h
  | threshold _ classify solve check =>
    refine ⟨fun constants h ↦ checked_dac check rfl (solved_dac solve) h, fun channel result h ↦ ?_⟩
    -- the margin check measures at mid trim and leaves the trims as they are
    rw [check.replay] at h
    exact nomatch h.symm.trans ((hclassified classify).2 channel)
  | trim _ classify solve check optimize =>
    refine optimize.recordsRun (fun constants h ↦ checked_dac check rfl (solved_dac solve) h) ?_
    rw [check.replay, classify.replay]
    exact hthdacMax

theorem Calibration.Staged.recordsRun
    (h : Staged bench geometry settings mode (start settings spec) (.ok ()) entries after) :
    after.RecordsRun settings := by
  have htrims : ∀ channel, (start settings spec).trim channel = none := trim_start
  cases h with
  | measured sample rest =>
    refine rest.recordsRun ?_ (fun channel ↦ ?_) ?_
    · rw [sample.replay]
      rfl
    · rw [sample.replay]
      exact htrims channel
    · rw [sample.replay]
      rfl

/-- The registers are in range when what they are taken from is. -/
theorem Context.RecordsRun.registers [RegisterScalar R] (h : final.RecordsRun settings)
    (hvalid : settings.ValidFor spec) (hdac : settings.threshold.thdacMax ≤ maxRegister)
    (htrim : settings.trim.trimMax ≤ maxRegister)
    (hthdacMax : final.thdacMax = settings.threshold.thdacMax)
    (htrimMid : final.trimMid = settings.trim.mid) :
    final.registers.thresholdDac ≤ settings.threshold.thdacMax ∧
      ∀ trim ∈ final.registers.channelTrim, trim ≤ settings.trim.trimMax := by
  have hhigh := hvalid.high_le_trimMax
  have hmid := hvalid.mid_lt_high
  have hlow := hvalid.low_lt_mid
  constructor
  · rw [Context.registers, Context.thresholdDac]
    cases hthreshold : final.threshold with
    | none => exact hthdacMax.le
    | some constants => exact (h.dac constants hthreshold).le hdac
  · intro trim hmem
    obtain ⟨channel, _, rfl⟩ := List.mem_map.mp hmem
    rw [Context.channelTrim]
    split
    · exact Nat.zero_le _
    · cases hresult : final.trim channel with
      | none =>
        change final.trimMid ≤ _
        omega
      | some result => exact (h.trim channel result hresult).le (by omega) (by omega) htrim

/-- Nothing recorded is left of a device that was given up. -/
theorem Context.recordsRun_fail (context : Context R) (cause : CalibrationError R) :
    (context.fail cause).RecordsRun settings := by
  refine ⟨fun constants h ↦ ?_, fun channel result h ↦ ?_⟩
  · cases h
  · rw [Context.trim, Context.fail, List.getElem?_map] at h
    cases hentry : context.trims[channel]? <;> simp [hentry] at h

/-! ## Whole runs -/

/-- A setting within the registers: at rest, with both of them zero, or at a threshold in range, and
at mid trim where channels are not trimmed. -/
def Setting.InRange (settings : Settings R) (mode : Mode) (flavor : Flavor) : Setting → Prop
  | .baseline => True
  | .threshold dac trim => dac ≤ settings.threshold.thdacMax ∧ trim ≤ settings.trim.trimMax ∧
      (mode.onBoard flavor ≠ .trim ∨ flavor.hasTrimmers = false → trim = settings.trim.mid)

/-- The registers a run sets, and those it ends with, are in range. -/
structure StaysInRange (settings : Settings R) (mode : Mode) (spec : DeviceSpec)
    (entries : Journal) (final : Context R) : Prop where
  setting : ∀ request ∈ entries.requests, request.setting.InRange settings mode spec.flavor
  dac : final.registers.thresholdDac ≤ settings.threshold.thdacMax
  trims : final.registers.channelTrim.length = spec.channels ∧
    ∀ trim ∈ final.registers.channelTrim, trim ≤ settings.trim.trimMax
  flags : final.registers.channelMask.length = spec.channels

theorem Mode.onBoard_ne_trim {flavor : Flavor} (h : flavor.hasTrimmers = false) (mode : Mode) :
    mode.onBoard flavor ≠ .trim := by
  cases mode <;> simp [Mode.onBoard, h]

/-- What a run asks for is in range, for the mode that runs on the board. -/
theorem Calibration.Staged.requests_in_range [RegisterScalar R]
    {result : Except (CalibrationError R) Unit}
    (h : Staged bench geometry settings (mode.onBoard spec.flavor) (start settings spec) result
      entries after)
    (hvalid : settings.ValidFor spec) (hdac : settings.threshold.thdacMax ≤ maxRegister)
    (htrim : settings.trim.trimMax ≤ maxRegister) :
    ∀ request ∈ entries.requests, request.setting.InRange settings mode spec.flavor := by
  have hhigh := hvalid.high_le_trimMax
  have hmid := hvalid.mid_lt_high
  have hlow := hvalid.low_lt_mid
  have hfollows : (start settings spec).Follows
      ⟨fun request ↦ request.setting.InRange settings mode spec.flavor, fun _ _ ↦ True⟩ entries
      after := by
    refine h.follows ⟨?_, fun _ _ ↦ trivial, fun _ _ ↦ trivial⟩
      ⟨?_, ?_, ?_, fun _ ↦ trivial, fun _ ↦ trivial, fun _ ↦ trivial⟩
    · exact fun _ _ _ ↦ trivial
    · intro dac hmem _ _
      exact ⟨hvalid.guessPointRange dac hmem, by omega, fun _ ↦ rfl⟩
    · intro dac hrun _ _
      exact ⟨hrun.le hdac, by omega, fun _ ↦ rfl⟩
    · intro hmode dac trim hrun hpass _ _
      refine ⟨hrun.le hdac, hpass.le (by omega) (by omega) htrim, ?_⟩
      rintro (hother | hboard)
      · exact absurd hmode hother
      · exact absurd hmode (mode.onBoard_ne_trim hboard)
  exact fun request hmem ↦ hfollows.within.request hmem

/-- Requests in range and records of the run make a run that stays in range. -/
theorem Context.RecordsRun.staysInRange [RegisterScalar R] (h : final.RecordsRun settings)
    (hvalid : settings.ValidFor spec) (hdac : settings.threshold.thdacMax ≤ maxRegister)
    (htrim : settings.trim.trimMax ≤ maxRegister)
    (hrequests : ∀ request ∈ entries.requests, request.setting.InRange settings mode spec.flavor)
    (hspec : final.spec = spec) (hthdacMax : final.thdacMax = settings.threshold.thdacMax)
    (htrimMid : final.trimMid = settings.trim.mid)
    (hlength : final.mask.reasons.length = spec.channels) :
    StaysInRange settings mode spec entries final := by
  obtain ⟨hthreshold, htrims⟩ := h.registers hvalid hdac htrim hthdacMax htrimMid
  refine ⟨hrequests, hthreshold, ⟨?_, htrims⟩, ?_⟩
  · rw [Context.registers, List.length_map, List.length_range, hspec]
  · rw [Context.registers, ChannelMask.flags, List.length_map, hlength]

/-- Registers stay in range for every front-end and all valid settings. -/
theorem registers_stay_in_range [RegisterScalar R] (bench : Bench σ R) (geometry : Geometry)
    (settings : Settings R) (mode : Mode) (spec : DeviceSpec) (link : Link σ)
    (hvalid : settings.validate spec = .ok ()) (hdac : settings.threshold.thdacMax < UInt16.size)
    (htrim : settings.trim.trimMax < UInt8.size) :
    ∃ entries, (Calibration.calibrate bench geometry settings mode spec link).link.journal =
        link.journal ++ entries ∧
      StaysInRange settings mode spec entries
        (Calibration.calibrate bench geometry settings mode spec link).context := by
  have hvalid := Settings.validFor_of_validate hvalid
  have hdac : settings.threshold.thdacMax ≤ maxRegister := Nat.le_pred_of_lt hdac
  have htrim : settings.trim.trimMax ≤ maxRegister :=
    (Nat.le_pred_of_lt htrim).trans (by decide)
  obtain ⟨entries, hjournal, hcourse⟩ :=
    Calibration.exists_course bench geometry settings mode spec link
  refine ⟨entries, hjournal, ?_⟩
  generalize (Calibration.calibrate bench geometry settings mode spec link).context = final
    at hcourse
  cases hcourse with
  | resolved stages =>
    have hfollows := stages.follows Baseline.permits_any Calibration.permits_any
    obtain ⟨hdacs, htrims⟩ := stages.recordsRun
    exact Context.RecordsRun.staysInRange ⟨hdacs, htrims⟩ hvalid hdac htrim
      (stages.requests_in_range hvalid hdac htrim) hfollows.spec hfollows.thdacMax hfollows.trimMid
      ((hfollows.fits Calibration.fits_start).trans (congrArg _ hfollows.spec))
  | masked stages =>
    have hfollows := stages.follows Baseline.permits_any Calibration.permits_any
    refine (Context.recordsRun_fail _ _).staysInRange hvalid hdac htrim ?_ hfollows.spec
      hfollows.thdacMax hfollows.trimMid ?_
    · rw [Journal.requests_append]
      exact fun request hmem ↦ stages.requests_in_range hvalid hdac htrim request
        (by simpa [Journal.requests] using hmem)
    · exact ChannelMask.length_reasons_maskAll.trans
        ((hfollows.fits Calibration.fits_start).trans (congrArg _ hfollows.spec))

theorem registers_stay_in_range_exact :
    (Exact.settings.validate Exact.spec = .ok () ∧ Exact.settings.threshold.thdacMax < UInt16.size ∧
      Exact.settings.trim.trimMax < UInt8.size) ∧
    ∃ entries, Exact.run.link.journal = (Link.new ()).journal ++ entries ∧
      StaysInRange Exact.settings .trim Exact.spec entries Exact.run.context := by
  have hvalid : Exact.settings.validate Exact.spec = .ok () := by cbv
  exact ⟨⟨hvalid, by decide, by decide⟩,
    registers_stay_in_range _ _ _ _ _ _ hvalid (by decide) (by decide)⟩

end ThresholdTrim
