import ThresholdTrim.Command.Calibrate
import ThresholdTrim.Config.Validate
import ThresholdTrim.Proofs.Pool
import ThresholdTrim.Proofs.Settings
import ThresholdTrim.Proofs.TwoRuns.Stages

/-!
# Accepted configurations

A configuration is checked once as a whole, and its settings once more for every device. The two
checks were written apart, over different records and in different orders. `Config.Valid` says what
the first one asks for, section by section; whatever the second one asks for is among it, so an
accepted configuration has no device with settings to complain about.

What is left to go wrong before a calibration is the front-end. A journal tells the difference: a
calibration gives warnings only (`Delivery.setupFailed_notMem_journal`), and the error that a device
could not be set up is entered in its place.
-/

namespace ThresholdTrim

open Scalar

variable {R : Type} [Scalar R]

/-! ## What the configuration check asks for -/

/-- Sampling settings worth a run. -/
structure SamplingSettings.Valid (s : SamplingSettings R) : Prop where
  sampleCount : s.sampleCount ≠ 0
  oversampling : s.oversampling ≠ 0
  pruneCutoff : lt (ofCount 0) s.pruneCutoffMv = true
  maxAttempts : s.maxAttempts ≠ 0
  retryDelay : s.retryDelayMs ≤ Config.maxRetryDelayMs

structure ClassifierLimits.Valid (c : ClassifierLimits R) : Prop where
  hotFactor : lt (ofCount 1) c.hotFactor = true
  deadFactor_pos : lt (ofCount 0) c.deadFactor = true
  deadFactor_lt_one : lt c.deadFactor (ofCount 1) = true
  rmsCutoff : lt (ofCount 0) c.rmsCutoffMv = true

structure ThresholdSettings.Valid (th : ThresholdSettings R) (minus : MinusSigns) : Prop where
  rmsFactor : minus.rmsFactor = false ∧ isNegative th.rmsFactor = false
  guessPointCount : 2 ≤ th.guessPoints.length
  guessPointRange : ∀ dac ∈ th.guessPoints, dac ≤ th.thdacMax
  guessPoints_nodup : th.guessPoints.Nodup
  slopeMin : lt (ofCount 0) th.slopeMin = true
  slopeMax : lt th.slopeMin th.slopeMax = true
  deviationTolerance : lt (ofCount 0) th.deviationTolerance = true
  deviationTolerance_le_one : le th.deviationTolerance (ofCount 1) = true
  guessMargin : lt (ofCount 0) th.guessMarginMv = true
  thdacMax : th.thdacMax ≠ 0

structure TrimSettings.Valid (t : TrimSettings R) (minus : MinusSigns) : Prop where
  low_lt_mid : t.low < t.mid
  mid_lt_high : t.mid < t.high
  high_le_trimMax : t.high ≤ t.trimMax
  slopeTolerance : minus.slopeTolerance = false ∧ isNegative t.slopeTolerance = false
  bumpCutoff : lt (ofCount 0) t.bumpCutoffMv = true
  unusableWarnRatio : within (ofCount 0) (ofCount 1) t.unusableWarnRatio = true

structure BoardEntry.Valid (board : BoardEntry) : Prop where
  name : board.name.toList.any (fun c ↦ !Text.isBlank c) = true
  vmms : board.vmms ≠ []
  channels : board.channels ≠ 0

namespace Config

/-- Configurations that make sense, as far as calibrating their devices is concerned. -/
structure Valid (config : Config R) : Prop where
  jobs : config.run.jobs ≠ 0
  sampling : config.sampling.Valid
  classifier : config.classifier.Valid
  threshold : config.threshold.Valid config.minus
  trim : config.trim.Valid config.minus
  boards : ∀ board ∈ config.boards, board.Valid

theorem valid_of_validateSampling {s : SamplingSettings R} (h : validateSampling s = .ok ()) :
    s.Valid := by
  obtain ⟨hsamples, h⟩ := Check.bind_eq_ok_iff.mp h
  obtain ⟨hoversampling, h⟩ := Check.bind_eq_ok_iff.mp h
  obtain ⟨hcutoff, h⟩ := Check.bind_eq_ok_iff.mp h
  obtain ⟨hattempts, hdelay⟩ := Check.bind_eq_ok_iff.mp h
  exact {
    sampleCount := bne_iff_ne.mp (Check.eq_ok_iff.mp hsamples)
    oversampling := bne_iff_ne.mp (Check.eq_ok_iff.mp hoversampling)
    pruneCutoff := Check.eq_ok_iff.mp hcutoff
    maxAttempts := bne_iff_ne.mp (Check.eq_ok_iff.mp hattempts)
    retryDelay := of_decide_eq_true (Check.eq_ok_iff.mp hdelay) }

theorem valid_of_validateClassifier {c : ClassifierLimits R} (h : validateClassifier c = .ok ()) :
    c.Valid := by
  obtain ⟨hhot, h⟩ := Check.bind_eq_ok_iff.mp h
  obtain ⟨hdead, hrms⟩ := Check.bind_eq_ok_iff.mp h
  have hdead := Bool.and_eq_true_iff.mp (Check.eq_ok_iff.mp hdead)
  exact {
    hotFactor := Check.eq_ok_iff.mp hhot
    deadFactor_pos := hdead.1
    deadFactor_lt_one := hdead.2
    rmsCutoff := Check.eq_ok_iff.mp hrms }

theorem valid_of_validateThreshold {th : ThresholdSettings R} {minus : MinusSigns}
    (h : validateThreshold th minus = .ok ()) : th.Valid minus := by
  obtain ⟨hrms, h⟩ := Check.bind_eq_ok_iff.mp h
  obtain ⟨hcount, h⟩ := Check.bind_eq_ok_iff.mp h
  obtain ⟨hrange, h⟩ := Check.bind_eq_ok_iff.mp h
  obtain ⟨hnodup, h⟩ := Check.bind_eq_ok_iff.mp h
  obtain ⟨hband, h⟩ := Check.bind_eq_ok_iff.mp h
  obtain ⟨htolerance, h⟩ := Check.bind_eq_ok_iff.mp h
  obtain ⟨hmargin, hmax⟩ := Check.bind_eq_ok_iff.mp h
  have hrms := (Bool.not_eq_true' _).mp (Check.eq_ok_iff.mp hrms)
  have hrange := List.all_eq_true.mp (Check.eq_ok_iff.mp hrange)
  have hband := Bool.and_eq_true_iff.mp (Check.eq_ok_iff.mp hband)
  have htolerance := Bool.and_eq_true_iff.mp (Check.eq_ok_iff.mp htolerance)
  exact {
    rmsFactor := (Bool.or_eq_false_iff).mp hrms
    guessPointCount := of_decide_eq_true (Check.eq_ok_iff.mp hcount)
    guessPointRange := fun dac hmem ↦ of_decide_eq_true (hrange dac hmem)
    guessPoints_nodup := of_decide_eq_true (Check.eq_ok_iff.mp hnodup)
    slopeMin := hband.1
    slopeMax := hband.2
    deviationTolerance := htolerance.1
    deviationTolerance_le_one := htolerance.2
    guessMargin := Check.eq_ok_iff.mp hmargin
    thdacMax := bne_iff_ne.mp (Check.eq_ok_iff.mp hmax) }

theorem valid_of_validateTrim {t : TrimSettings R} {minus : MinusSigns}
    (h : validateTrim t minus = .ok ()) : t.Valid minus := by
  obtain ⟨horder, h⟩ := Check.bind_eq_ok_iff.mp h
  obtain ⟨hrange, h⟩ := Check.bind_eq_ok_iff.mp h
  obtain ⟨htolerance, h⟩ := Check.bind_eq_ok_iff.mp h
  obtain ⟨hcutoff, hratio⟩ := Check.bind_eq_ok_iff.mp h
  have horder := of_decide_eq_true (Check.eq_ok_iff.mp horder)
  have htolerance := (Bool.not_eq_true' _).mp (Check.eq_ok_iff.mp htolerance)
  exact {
    low_lt_mid := horder.1
    mid_lt_high := horder.2
    high_le_trimMax := of_decide_eq_true (Check.eq_ok_iff.mp hrange)
    slopeTolerance := Bool.or_eq_false_iff.mp htolerance
    bumpCutoff := Check.eq_ok_iff.mp hcutoff
    unusableWarnRatio := Check.eq_ok_iff.mp hratio }

theorem valid_of_validateBoard {board : BoardEntry} (h : validateBoard board = .ok ()) :
    board.Valid := by
  obtain ⟨hname, h⟩ := Check.bind_eq_ok_iff.mp h
  obtain ⟨hvmms, hchannels⟩ := Check.bind_eq_ok_iff.mp h
  have hvmms := (Bool.not_eq_true' _).mp (Check.eq_ok_iff.mp hvmms)
  exact {
    name := Check.eq_ok_iff.mp hname
    vmms := List.isEmpty_eq_false_iff.mp hvmms
    channels := bne_iff_ne.mp (Check.eq_ok_iff.mp hchannels) }

variable {config : Config R} {spec : DeviceSpec}

theorem valid_of_validate (h : config.validate = .ok ()) : config.Valid := by
  obtain ⟨hjobs, h⟩ := Check.bind_eq_ok_iff.mp h
  obtain ⟨hsampling, h⟩ := Check.bind_eq_ok_iff.mp h
  obtain ⟨hclassifier, h⟩ := Check.bind_eq_ok_iff.mp h
  obtain ⟨hthreshold, h⟩ := Check.bind_eq_ok_iff.mp h
  obtain ⟨htrim, h⟩ := Check.bind_eq_ok_iff.mp h
  obtain ⟨hboards, _⟩ := Check.bind_eq_ok_iff.mp h
  exact {
    jobs := bne_iff_ne.mp (Check.eq_ok_iff.mp hjobs)
    sampling := valid_of_validateSampling hsampling
    classifier := valid_of_validateClassifier hclassifier
    threshold := valid_of_validateThreshold hthreshold
    trim := valid_of_validateTrim htrim
    boards := fun _ hmem ↦ valid_of_validateBoard (Check.eq_ok_of_forM hboards hmem) }

/-! ## Devices of a configuration -/

omit [Scalar R] in
/-- A device has the channels of a board that is listed. -/
theorem exists_board (h : spec ∈ config.devices) :
    ∃ board ∈ config.boards, spec.channels = board.channels := by
  obtain ⟨board, hboard, hmem⟩ := List.mem_flatMap.mp h
  obtain ⟨vmm, _, rfl⟩ := List.mem_map.mp hmem
  exact ⟨board, hboard, rfl⟩

/-- Settings of a valid configuration are valid for each of its devices. -/
theorem Valid.validFor (h : config.Valid) (hspec : spec ∈ config.devices) :
    config.settings.ValidFor spec := by
  obtain ⟨board, hboard, hchannels⟩ := exists_board hspec
  exact {
    channels := hchannels ▸ (h.boards board hboard).channels
    sampleCount := h.sampling.sampleCount
    oversampling := h.sampling.oversampling
    pruneCutoff := h.sampling.pruneCutoff
    maxAttempts := h.sampling.maxAttempts
    guessPointCount := h.threshold.guessPointCount
    guessPointRange := h.threshold.guessPointRange
    slopeMin := h.threshold.slopeMin
    slopeMax := h.threshold.slopeMax
    deviationTolerance := h.threshold.deviationTolerance
    low_lt_mid := h.trim.low_lt_mid
    mid_lt_high := h.trim.mid_lt_high
    high_le_trimMax := h.trim.high_le_trimMax }

end Config

/-! ## Devices that cannot be set up -/

variable {σ : Type}

omit [Scalar R] in
/-- Whatever is entered in the course of a run is not that error. -/
theorem Link.kept_setupFailed_notMem {bench : Bench σ R} :
    Link.Kept (fun link ↦ .notice .setupFailed ∉ link.log) bench where
  notice hwarning h hmem := by
    rcases List.mem_cons.mp hmem with heq | hmem
    · cases heq
      cases hwarning
    · exact h hmem
  masked h hmem := h ((List.mem_cons.mp hmem).resolve_left nofun)
  pause h hmem := h ((List.mem_cons.mp hmem).resolve_left nofun)
  call h hmem := h ((List.mem_cons.mp hmem).resolve_left nofun)
  write h hmem := h ((List.mem_cons.mp hmem).resolve_left nofun)

/-- A calibration that was begun does not say that the device could not be set up. -/
theorem Delivery.setupFailed_notMem_journal (calibrator : Calibrator σ R) (frontEnd : σ) :
    .notice .setupFailed ∉ (ofCalibrator calibrator frontEnd).journal := by
  have hnew : .notice .setupFailed ∉ (Link.new frontEnd).log := List.not_mem_nil
  intro hmem
  exact calibrator.run_keeps Link.kept_setupFailed_notMem hnew (List.mem_reverse.mp hmem)

namespace Command

variable [Generator] {config : Config Float} {spec : DeviceSpec}

/-- Once its front-end is open, a device with valid settings is calibrated. -/
theorem calibrateDevice_eq (hvalid : config.settings.ValidFor spec) {model : Model}
    (hopen : openFrontEnd config spec = .ok model) (options : RunOptions) :
    calibrateDevice config options spec = .ofCalibrator
      ⟨Model.frontEnd, spec, config.exclusions, config.settings, options.mode, options.writeBack⟩
      model := by
  rw [calibrateDevice, hopen]
  dsimp only
  rw [Assembly.build]
  dsimp only [Option.getD]
  rw [hvalid.validate]
  rfl

/-- A device of an accepted configuration cannot be set up exactly when its front-end cannot be
opened. -/
theorem setupFailed_mem_journal_iff (hvalid : config.settings.ValidFor spec)
    (options : RunOptions) :
    .notice .setupFailed ∈ (calibrateDevice config options spec).journal ↔
      ∃ failure, openFrontEnd config spec = .error failure := by
  constructor
  · intro hmem
    cases hopen : openFrontEnd config spec with
    | error failure => exact ⟨failure, rfl⟩
    | ok model =>
      rw [calibrateDevice_eq hvalid hopen] at hmem
      exact absurd hmem (Delivery.setupFailed_notMem_journal _ model)
  · rintro ⟨failure, hopen⟩
    rw [calibrateDevice, hopen]
    exact List.mem_cons_self

end Command

/-! ## Runs over an accepted configuration -/

namespace Pool

variable {work : DeviceSpec → Delivery R} {specs : List DeviceSpec} {delivery : Delivery R}

omit [Scalar R] in
/-- What a pool has delivered is the work on some of its devices. -/
theorem Reaches.exists_spec {jobs : Nat} {raised : Bool} {s : State R}
    (h : Reaches work (.start jobs specs raised) s) (hmem : delivery ∈ s.delivered) :
    ∃ spec ∈ specs, delivery = work spec := by
  obtain ⟨reported, haccounts⟩ := h.accounts
  rw [haccounts.delivered] at hmem
  obtain ⟨spec, hspec, rfl⟩ := List.mem_map.mp hmem
  refine ⟨spec, haccounts.places.mem_iff.mp ?_, rfl⟩
  exact List.mem_append_left _ (List.mem_append_right _ hspec)

omit [Scalar R] in
theorem exists_spec_of_mem_run {stopped : Bool} (hmem : delivery ∈ run work stopped specs) :
    ∃ spec ∈ specs, delivery = work spec := by
  rw [run, (inOrder_perm _).mem_iff] at hmem
  split at hmem
  · cases hmem
  · obtain ⟨spec, hspec, rfl⟩ := List.mem_map.mp hmem
    exact ⟨spec, hspec, rfl⟩

end Pool

namespace Command

/-- Once a configuration is accepted, its settings are valid for all of its devices. In a run over
some of them, by one worker or by many, the devices that cannot be set up are those whose front-end
cannot be opened. -/
theorem accepted_devices_fail_by_frontEnd_only [Generator] (config : Config Float)
    (h : config.validate = .ok ()) :
    (∀ spec ∈ config.devices, config.settings.validate spec = .ok ()) ∧
      ∀ (options : RunOptions) (specs : List DeviceSpec) (delivery : Delivery Float),
        specs ⊆ config.devices →
        (∃ stopped, delivery ∈ Pool.run (calibrateDevice config options) stopped specs) ∨
          (∃ jobs raised s, Pool.Reaches (calibrateDevice config options)
            (.start jobs specs raised) s ∧ delivery ∈ s.delivered) →
        ∃ spec ∈ specs, delivery = calibrateDevice config options spec ∧
          (.notice .setupFailed ∈ delivery.journal ↔
            ∃ failure, openFrontEnd config spec = .error failure) := by
  have hvalid := Config.valid_of_validate h
  refine ⟨fun spec hspec ↦ (hvalid.validFor hspec).validate, ?_⟩
  intro options specs delivery hspecs hdelivery
  have hwork : ∃ spec ∈ specs, delivery = calibrateDevice config options spec := by
    rcases hdelivery with ⟨_, hmem⟩ | ⟨_, _, s, hreaches, hmem⟩
    · exact Pool.exists_spec_of_mem_run hmem
    · exact hreaches.exists_spec hmem
  obtain ⟨spec, hspec, rfl⟩ := hwork
  exact ⟨spec, hspec, rfl, setupFailed_mem_journal_iff (hvalid.validFor (hspecs hspec)) options⟩

/-- A configuration at the edge of what is accepted: infinite and undefined values, one channel, and
a front-end that cannot be opened. -/
def edgeConfig : Config Float where
  run := {}
  sampling :=
    { (Settings.defaultSampling : SamplingSettings Float) with
      pruneCutoffMv := 1 / 0
      retryDelayMs := 60000 }
  classifier := Config.defaultLimits
  threshold :=
    { (Settings.defaultThreshold : ThresholdSettings Float) with
      fixedOffsetMv := 0 / 0
      deviationTolerance := 1 }
  trim := Settings.defaultTrim
  minus := {}
  logging := {}
  simulation := { baselineSpread := 1 / 0 }
  boards := [⟨"MMFE8", .a, 1, .mmfe8, [0, 1], 1⟩]
  geometry := []

/-- Its devices have valid settings, and are reported as not set up for want of a front-end. -/
theorem accepted_devices_fail_by_frontEnd_only_edge :
    edgeConfig.validate = .ok () ∧
      (∀ spec ∈ edgeConfig.devices, edgeConfig.settings.validate spec = .ok ()) ∧
      ∀ [Generator] options, ∀ delivery ∈
        Pool.run (calibrateDevice edgeConfig options) false edgeConfig.devices,
        .notice .setupFailed ∈ delivery.journal := by
  have hvalid : edgeConfig.validate = .ok () := Check.eq_ok_of_isOk (by decide +kernel)
  have hsettings := Config.valid_of_validate hvalid
  refine ⟨hvalid, fun spec hspec ↦ (hsettings.validFor hspec).validate, ?_⟩
  intro _ options delivery hmem
  have hclosed : (edgeConfig.devices.all fun spec ↦ !(openFrontEnd edgeConfig spec).isOk) = true :=
    rfl
  obtain ⟨_, hdelivered⟩ := accepted_devices_fail_by_frontEnd_only edgeConfig hvalid
  obtain ⟨spec, hspec, _, hiff⟩ := hdelivered options edgeConfig.devices delivery
    (List.Subset.refl _) (.inl ⟨false, hmem⟩)
  have hspec := List.all_eq_true.mp hclosed spec hspec
  refine hiff.mpr ?_
  cases hopen : openFrontEnd edgeConfig spec with
  | error failure => exact ⟨failure, rfl⟩
  | ok model =>
    rw [hopen] at hspec
    cases hspec

end Command

end ThresholdTrim
