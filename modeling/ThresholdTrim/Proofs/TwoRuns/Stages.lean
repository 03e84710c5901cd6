import ThresholdTrim.Calibration
import ThresholdTrim.Proofs.TwoRuns

/-!
# Stages side by side

The stages of a calibration, gone through once for each with the rules of `Alike`. All they need of
the two front-ends is `Bench.Alike`, that acquisitions and pauses go the same way; that follows when
single calls do. What is asked of single calls is in each case all there is to show about a whole
calibration.

A property that every call, pause, notice and masking keeps is kept by a calibration
(`Calibration.calibrate_keeps`).
-/

namespace ThresholdTrim

open Scalar Statistics

variable {σ τ R : Type} {rel : Link σ → Link τ → Prop} {bench : Bench σ R} {bench' : Bench τ R}

/-! ## Benches that are alike -/

/-- Two benches with the same settings whose acquisitions and pauses keep two links related. -/
structure Bench.Alike (rel : Link σ → Link τ → Prop) (bench : Bench σ R) (bench' : Bench τ R) : Prop
    extends Link.Lasts rel where
  sampling : bench'.sampling = bench.sampling
  pause : Sampler.Alike rel (Sampler.pause bench) (Sampler.pause bench')
  acquire : ∀ request, request.count ≠ 0 →
    Sampler.Alike rel (Sampler.acquire bench request) (Sampler.acquire bench' request)

namespace Sampler

variable {request : Request}

theorem acquire_alike (h : Link.Lasts rel) (hsampling : bench'.sampling = bench.sampling)
    (hretry : Alike rel (retry bench request (bench.sampling.attempts - 1))
      (retry bench' request (bench.sampling.attempts - 1))) :
    Alike rel (acquire bench request) (acquire bench' request) := by
  rw [acquire, acquire, hsampling]
  refine hretry.bind fun result ↦ ?_
  cases result with
  | error reason => exact (alike_note h rfl).bind fun _ ↦ .throw _
  | ok batch => exact .ite ((alike_note h rfl).bind fun _ ↦ .pure _) (.pure _)

theorem retry_alike (hpause : Alike rel (pause bench) (pause bench'))
    (hcall : Alike rel (call bench request) (call bench' request)) (further : Nat) :
    Alike rel (retry bench request further) (retry bench' request further) := by
  induction further with
  | zero => exact hcall.bind fun _ ↦ .pure _
  | succ further ih =>
    refine hcall.bind fun answer ↦ ?_
    cases usable answer with
    | ok batch => exact .pure _
    | error reason => exact hpause.bind fun _ ↦ ih

end Sampler

/-- Benches whose single calls keep two links related are alike. -/
theorem Bench.alike_of_call (h : Link.Lasts rel) (hsampling : bench'.sampling = bench.sampling)
    (hpause : Sampler.Alike rel (Sampler.pause bench) (Sampler.pause bench'))
    (hcall : ∀ request, Sampler.Alike rel (Sampler.call bench request)
      (Sampler.call bench' request)) : Bench.Alike rel bench bench' where
  toLasts := h
  sampling := hsampling
  pause := hpause
  acquire request _ :=
    Sampler.acquire_alike h hsampling (Sampler.retry_alike hpause (hcall request) _)

/-! ## Properties of one link -/

/-- A property that links keep whatever a run does with them. -/
structure Link.Kept (I : Link σ → Prop) (bench : Bench σ R) : Prop where
  notice : ∀ {notice link}, notice.isError = false → I link → I (link.enter (.notice notice))
  masked : ∀ {channel reason link}, I link → I (link.enter (.masked channel reason))
  pause : ∀ {link}, I link → I (Sampler.paused bench link)
  call : ∀ {request link}, I link → I (Sampler.called bench request link)
  write : ∀ {device registers link}, I link → I (Sampler.written bench device registers link)

theorem Link.Kept.alike {I : Link σ → Prop} (h : Link.Kept I bench) :
    Bench.Alike (fun link link' ↦ I link ∧ link' = link) bench bench := by
  refine Bench.alike_of_call ⟨fun hnotice hlink ↦ ?_, fun hlink ↦ ?_⟩ rfl ?_ fun request ↦ ?_
  · exact ⟨h.notice hnotice hlink.1, hlink.2 ▸ rfl⟩
  · exact ⟨h.masked hlink.1, hlink.2 ▸ rfl⟩
  · rintro link _ ⟨hlink, rfl⟩
    exact ⟨rfl, h.pause hlink, rfl⟩
  · rintro link _ ⟨hlink, rfl⟩
    exact ⟨rfl, h.call hlink, rfl⟩

theorem SamplingSettings.oversampled_ne_zero (s : SamplingSettings R) : s.oversampled ≠ 0 := by
  rw [oversampled]
  omega

variable [Scalar R]

namespace Sampler

variable {channel : ChannelKey} {setting : Setting}

theorem medianLevel_alike (h : Bench.Alike rel bench bench') :
    Alike rel (medianLevel bench channel setting) (medianLevel bench' channel setting) := by
  have hcount : max bench.sampling.sampleCount 1 ≠ 0 := by omega
  rw [medianLevel, medianLevel, h.sampling]
  refine (h.acquire _ hcount).bind fun batch ↦ ?_
  cases median batch with
  | none => exact .throw _
  | some count => exact .pure _

theorem prunedMeanLevel_alike {margin : R} {flavor : Flavor}
    (h : Bench.Alike rel bench bench') :
    Alike rel (prunedMeanLevel bench channel setting margin flavor)
      (prunedMeanLevel bench' channel setting margin flavor) := by
  rw [prunedMeanLevel, prunedMeanLevel, h.sampling]
  refine (h.acquire _ bench.sampling.oversampled_ne_zero).bind fun batch ↦ ?_
  cases median batch with
  | none => exact .throw _
  | some center =>
    dsimp only
    cases prune batch (ofCount center) margin flavor with
    | nil => exact .throw _
    | cons kept rest => exact .pure _

end Sampler

/-! ## Baselines and classification -/

namespace Baseline

theorem measure_alike (h : Bench.Alike rel bench bench') (channel : Nat) :
    Stage.Alike rel (measure bench channel) (measure bench' channel) := by
  rw [measure, measure, h.sampling]
  refine Stage.alike_context.bind fun context ↦ ?_
  refine (Stage.alike_attempt (Stage.alike_sample
    (h.acquire _ bench.sampling.oversampled_ne_zero))).bind fun answer ↦ ?_
  cases answer with
  | ok batch =>
    refine (Alike.pure _).bind fun record ↦ ?_
    cases record with
    | none => exact Stage.alike_mask h.toLasts _ _
    | some record => exact Stage.alike_update _
  | error cause =>
    refine (Stage.alike_note h.toLasts rfl).bind fun _ ↦ (Alike.pure _).bind fun record ↦ ?_
    cases record with
    | none => exact Stage.alike_mask h.toLasts _ _
    | some record => exact Stage.alike_update _

theorem visit_alike {geometry : Geometry} (h : Bench.Alike rel bench bench')
    (channel : Nat) :
    Stage.Alike rel (visit bench geometry channel) (visit bench' geometry channel) :=
  Stage.alike_context.bind fun _ ↦ .ite (Stage.alike_mask h.toLasts _ _) (measure_alike h channel)

theorem sampleAll_alike {geometry : Geometry} (h : Bench.Alike rel bench bench') :
    Stage.Alike rel (sampleAll bench geometry) (sampleAll bench' geometry) := by
  refine Stage.alike_context.bind fun context ↦ ?_
  refine (Alike.forM (visit_alike h) _).bind fun _ ↦ Stage.alike_context.bind fun sampled ↦ ?_
  exact (Stage.alike_need _).bind fun device ↦ (Stage.alike_update _).bind fun _ ↦ .pure _

end Baseline

theorem classifyOne_alike (h : Link.Lasts rel) (settings : ClassifierSettings R) (deviceMedian : R)
    (found : Classification) (channel : Nat) :
    Stage.Alike rel (classifyOne settings deviceMedian found channel : Stage σ R _)
      (classifyOne settings deviceMedian found channel : Stage τ R _) := by
  refine Stage.alike_context.bind fun context ↦ .ite (.pure _) ?_
  -- whatever was found before, a dead channel is noted in the end
  have hdead : ∀ {condition : Prop} [Decidable condition] {found : Classification},
      Stage.Alike rel
        (if condition then do Stage.note .deadChannel; return found else return found :
          Stage σ R Classification)
        (if condition then do Stage.note .deadChannel; return found else return found :
          Stage τ R Classification) :=
    .ite ((Stage.alike_note h rfl).bind fun _ ↦ .pure _) (.pure _)
  exact .ite
    ((Stage.alike_note h rfl).bind fun _ ↦ (Stage.alike_mask h _ _).bind fun _ ↦ hdead) hdead

theorem classify_alike (h : Link.Lasts rel) (settings : ClassifierSettings R) :
    Stage.Alike rel (classify settings : Stage σ R _) (classify settings : Stage τ R _) := by
  refine Stage.alike_context.bind fun context ↦ ?_
  cases context.deviceBaseline with
  | none => exact .pure _
  | some device =>
    refine (Alike.foldlM (classifyOne_alike h settings device.median) _ _).bind fun found ↦ ?_
    generalize found.judge settings = verdict
    have hverdict : Stage.Alike rel
        (do Stage.update fun context ↦ { context with classification := some verdict }
            return verdict : Stage σ R _)
        (do Stage.update fun context ↦ { context with classification := some verdict }
            return verdict : Stage τ R _) :=
      (Stage.alike_update _).bind fun _ ↦ .pure _
    have hnoisy : Notice.noisyDevice.isError = false := rfl
    have hnoise := Alike.ite (P := verdict.samplingSuspect)
      ((Stage.alike_note h hnoisy).bind fun _ ↦ hverdict) hverdict
    exact .ite ((Stage.alike_note h rfl).bind fun _ ↦ hnoise)
      (.ite ((Stage.alike_note h rfl).bind fun _ ↦ hnoise) hnoise)

/-! ## The threshold -/

namespace Threshold

variable {settings : ThresholdSettings R}

theorem probeGuess_alike (h : Bench.Alike rel bench bench') (probe dac : Nat) :
    Stage.Alike rel (probeGuess bench settings probe dac)
      (probeGuess bench' settings probe dac) := by
  refine Stage.alike_context.bind fun context ↦ ?_
  refine (Stage.alike_attempt (Stage.alike_sample (Sampler.prunedMeanLevel_alike h))).bind
    fun answer ↦ ?_
  cases answer with
  | ok level => exact .pure _
  | error cause => exact (Stage.alike_note h.toLasts rfl).bind fun _ ↦ .pure _

theorem fitResponse_alike (h : Bench.Alike rel bench bench') (probe : Nat) :
    Stage.Alike rel (fitResponse bench settings probe)
      (fitResponse bench' settings probe) := by
  refine (Alike.mapM (probeGuess_alike h probe) _).bind fun readings ↦ ?_
  dsimp only
  cases Line.fit ((readings.filterMap id).map (·.1)) ((readings.filterMap id).map (·.2)) with
  | error fault => exact .throw _
  | ok line => exact .ite (.pure _) (.throw _)

theorem fitWithRefit_alike (h : Bench.Alike rel bench bench') (probe : Nat) :
    Stage.Alike rel (fitWithRefit bench settings probe)
      (fitWithRefit bench' settings probe) := by
  refine (Stage.alike_attempt (fitResponse_alike h probe)).bind fun answer ↦ ?_
  have hagain : Stage.Alike rel
      (do Stage.note .refitting; Stage.sample (Sampler.pause bench)
          fitResponse bench settings probe)
      (do Stage.note .refitting; Stage.sample (Sampler.pause bench')
          fitResponse bench' settings probe) :=
    (Stage.alike_note h.toLasts rfl).bind fun _ ↦
      (Stage.alike_sample (h.pause)).bind fun _ ↦ fitResponse_alike h probe
  cases answer with
  | ok line => exact .pure _
  | error cause =>
    cases cause with
    | slopeOutOfBand => exact hagain
    | _ => exact .throw _

theorem tryCandidate_alike {baselineMv targetMv : R} (h : Bench.Alike rel bench bench')
    (probe dac : Nat) :
    Stage.Alike rel (tryCandidate bench settings probe dac baselineMv targetMv)
      (tryCandidate bench' settings probe dac baselineMv targetMv) := by
  refine Stage.alike_context.bind fun context ↦ ?_
  refine (Stage.alike_sample (Sampler.prunedMeanLevel_alike h)).bind fun realized ↦ ?_
  cases checkRealized context.spec.flavor settings.deviationTolerance baselineMv targetMv
      realized with
  | ok realized => exact .pure _
  | error cause => exact .throw _

theorem verify_alike {baselineMv targetMv : R} (h : Bench.Alike rel bench bench')
    (probe dac further : Nat) :
    Stage.Alike rel (verify bench settings probe dac baselineMv targetMv further)
      (verify bench' settings probe dac baselineMv targetMv further) := by
  induction further with
  | zero =>
    refine (Stage.alike_attempt (tryCandidate_alike h probe dac)).bind fun answer ↦ ?_
    cases answer with
    | ok realized => exact .pure _
    | error cause => exact (Stage.alike_note h.toLasts rfl).bind fun _ ↦ .throw _
  | succ further ih =>
    refine (Stage.alike_attempt (tryCandidate_alike h probe dac)).bind fun answer ↦ ?_
    cases answer with
    | ok realized => exact .pure _
    | error cause =>
      exact (Stage.alike_note h.toLasts rfl).bind fun _ ↦
        (Stage.alike_sample (h.pause)).bind fun _ ↦ ih

theorem solve_alike (h : Bench.Alike rel bench bench') :
    Stage.Alike rel (solve bench settings) (solve bench' settings) := by
  rw [solve, solve, h.sampling]
  refine Stage.alike_context.bind fun context ↦ ?_
  refine (Stage.alike_need _).bind fun device ↦ (Stage.alike_need _).bind fun probe ↦ ?_
  refine (fitWithRefit_alike h probe).bind fun line ↦ ?_
  cases invertTarget line (context.spec.flavor.toCounts (targetMv device context.spec.flavor
      settings)) settings.thdacMax with
  | error cause => exact .throw _
  | ok dac => exact (verify_alike h probe dac _).bind fun _ ↦ .pure _

theorem measureRealized_alike (h : Bench.Alike rel bench bench') (dac : Nat) :
    Stage.Alike rel (measureRealized bench dac) (measureRealized bench' dac) :=
  Stage.alike_context.bind fun _ ↦ (Stage.alike_need _).bind fun _ ↦
    Stage.alike_sample (Sampler.medianLevel_alike h)

theorem midEff_alike (h : Bench.Alike rel bench bench') (dac channel : Nat) :
    Stage.Alike rel (midEff bench dac channel) (midEff bench' dac channel) := by
  refine Stage.alike_context.bind fun context ↦ .ite (.pure _) ?_
  refine (Stage.alike_attempt (Stage.alike_sample (Sampler.medianLevel_alike h))).bind
    fun answer ↦ ?_
  cases answer with
  | ok level => exact .pure _
  | error cause => exact Stage.alike_giveUp h.toLasts rfl _ _ _

theorem measureMid_alike (h : Bench.Alike rel bench bench') (dac : Nat) :
    Stage.Alike rel (measureMid bench dac) (measureMid bench' dac) := by
  refine Stage.alike_context.bind fun context ↦ ?_
  refine (Alike.mapM (midEff_alike h dac) _).bind fun channelEff ↦ ?_
  exact (Stage.alike_need _).bind fun deviceEff ↦ .pure _

theorem recheckMargin_alike (h : Bench.Alike rel bench bench') :
    Stage.Alike rel (recheckMargin bench settings) (recheckMargin bench' settings) := by
  refine Stage.alike_context.bind fun context ↦ ?_
  refine (Stage.alike_need _).bind fun constants ↦ (Stage.alike_need _).bind fun device ↦ ?_
  refine (measureMid_alike h _).bind fun first ↦ ?_
  have hkeep (mid : MidTrim R) : Stage.Alike rel
      (do Stage.update fun context ↦ { context with mid := some mid }; return mid : Stage σ R _)
      (do Stage.update fun context ↦ { context with mid := some mid }; return mid : Stage τ R _) :=
    (Stage.alike_update _).bind fun _ ↦ .pure _
  refine .ite ((Stage.alike_note h.toLasts rfl).bind fun _ ↦ ?_) ((Alike.pure first).bind hkeep)
  refine (measureMid_alike h _).bind fun second ↦ (measureRealized_alike h _).bind fun _ ↦ ?_
  have hsecond := (Alike.pure second).bind hkeep
  exact (Stage.alike_update _).bind fun _ ↦
    .ite ((Stage.alike_note h.toLasts rfl).bind fun _ ↦ hsecond) hsecond

end Threshold

/-! ## Trims -/

namespace Trim

variable {settings : TrimSettings R}

theorem searchHigh_alike {level : Nat → Stage σ R R} {level' : Nat → Stage τ R R}
    (hlevel : ∀ trim, Stage.Alike rel (level trim) (level' trim))
    (tolerance midEff slopeBelow : R) (mid : Nat) (points : List Nat) (depth : Nat) :
    Stage.Alike rel (searchHigh level tolerance mid midEff slopeBelow points depth)
      (searchHigh level' tolerance mid midEff slopeBelow points depth) := by
  induction points generalizing depth with
  | nil => exact .pure _
  | cons high rest ih => exact (hlevel high).bind fun _ ↦ .ite (.pure _) (ih (depth + 1))

theorem findRegion_alike {level : Nat → Stage σ R R} {level' : Nat → Stage τ R R}
    (hlevel : ∀ trim, Stage.Alike rel (level trim) (level' trim)) :
    Stage.Alike rel (findRegion level settings) (findRegion level' settings) :=
  (hlevel _).bind fun _ ↦ (hlevel _).bind fun _ ↦
    .ite (.pure _) (searchHigh_alike hlevel _ _ _ _ _ _)

theorem channelRegion_alike (h : Bench.Alike rel bench bench') (dac channel : Nat) :
    Stage.Alike rel (channelRegion bench settings dac channel)
      (channelRegion bench' settings dac channel) := by
  refine Stage.alike_context.bind fun context ↦ .ite (.pure _) ?_
  refine (Stage.alike_attempt (findRegion_alike fun trim ↦ ?_)).bind fun answer ↦ ?_
  · exact (Stage.alike_sample (Sampler.medianLevel_alike h)).bind fun _ ↦ .pure _
  · cases answer with
    | ok region => exact .pure _
    | error cause => exact Stage.alike_giveUp h.toLasts rfl _ _ _

theorem settleAt_alike {region : Region R} (h : Bench.Alike rel bench bench') (dac : Nat)
    (pass : Pass) (channel trim : Nat) :
    Stage.Alike rel (settleAt bench settings dac pass region channel trim)
      (settleAt bench' settings dac pass region channel trim) := by
  refine Stage.alike_context.bind fun context ↦ ?_
  refine (Stage.alike_attempt (Stage.alike_sample (Sampler.medianLevel_alike h))).bind
    fun answer ↦ ?_
  cases answer with
  | error cause => exact Stage.alike_giveUp h.toLasts rfl _ _ _
  | ok realized => exact .ite (.ite (Stage.alike_giveUp h.toLasts rfl _ _ _) (.pure _)) (.pure _)

theorem settle_alike (h : Bench.Alike rel bench bench') (dac : Nat) (pass : Pass)
    (deviceEff : R) (found : Option (Region R) × Nat) :
    Stage.Alike rel (settle bench settings dac pass deviceEff found)
      (settle bench' settings dac pass deviceEff found) := by
  obtain ⟨_ | region, channel⟩ := found
  · exact .pure _
  · exact .ite (settleAt_alike h dac pass channel _) (Stage.alike_context.bind fun _ ↦ .pure _)

theorem runPass_alike (h : Bench.Alike rel bench bench') (dac : Nat) (pass : Pass) :
    Stage.Alike rel (runPass bench settings dac pass)
      (runPass bench' settings dac pass) := by
  refine Stage.alike_context.bind fun context ↦ (Stage.alike_update _).bind fun _ ↦ ?_
  refine (Alike.mapM (channelRegion_alike h dac) _).bind fun regions ↦ ?_
  refine (Stage.alike_need _).bind fun deviceEff ↦ (Stage.alike_update _).bind fun _ ↦ ?_
  exact (Alike.mapM (settle_alike h dac pass deviceEff) _).bind fun settled ↦
    (Stage.alike_update _).bind fun _ ↦ .pure _

/-- The trims of a device, with passes made in some way of their own. -/
def optimizeWith (runPass : Nat → Pass → Stage σ R (PassOutcome R)) (bench : Bench σ R)
    (settings : TrimSettings R) : Stage σ R Unit := do
  let constants ← Stage.need (← Stage.context).threshold
  let outcome ← runPass constants.dac .first
  let context ← Stage.context
  if outcome.bumps.any (isFixable context.trims) then
    let dac := raisedForBumps constants outcome.bumps context.thdacMax
    let realized ← Threshold.measureRealized bench dac
    Stage.update fun context ↦
      { context with
        threshold := some { constants with dac, realized }
        secondPass := true }
    let _ ← runPass dac .second
  else if tooManyUnusable outcome.unusable outcome.regions settings then
    Stage.note .manyUnusable

theorem optimizeWith_alike {pass : Nat → Pass → Stage σ R (PassOutcome R)}
    {pass' : Nat → Pass → Stage τ R (PassOutcome R)} (h : Bench.Alike rel bench bench')
    (hpass : ∀ dac which, Stage.Alike rel (pass dac which) (pass' dac which)) :
    Stage.Alike rel (optimizeWith pass bench settings) (optimizeWith pass' bench' settings) := by
  refine Stage.alike_context.bind fun start ↦ (Stage.alike_need _).bind fun constants ↦ ?_
  refine (hpass constants.dac .first).bind fun outcome ↦ ?_
  refine Stage.alike_context.bind fun context ↦
    .ite ?_ (.ite (Stage.alike_note h.toLasts rfl) (.pure _))
  refine (Threshold.measureRealized_alike h _).bind fun realized ↦ ?_
  exact (Stage.alike_update _).bind fun _ ↦ (hpass _ .second).bind fun _ ↦ .pure _

end Trim

/-! ## A whole calibration -/

namespace Calibration

variable (geometry : Geometry) (settings : Settings R) (mode : Mode) (spec : DeviceSpec)

/-- The stages of a mode, with passes made in some way of their own. -/
def stagesWith (runPass : Nat → Trim.Pass → Stage σ R (Trim.PassOutcome R)) (bench : Bench σ R)
    (geometry : Geometry) (settings : Settings R) (mode : Mode) : Stage σ R Unit := do
  let _ ← Baseline.sampleAll bench geometry
  let _ ← classify settings.classifier
  if mode = .baseline then return
  let constants ← Threshold.solve bench settings.threshold
  Stage.update fun context ↦ { context with threshold := some constants }
  let _ ← Threshold.recheckMargin bench settings.threshold
  if mode = .threshold then return
  Trim.optimizeWith runPass bench settings.trim

/-- A calibration, with passes made in some way of their own. -/
def calibrateWith (runPass : Nat → Trim.Pass → Stage σ R (Trim.PassOutcome R)) (bench : Bench σ R)
    (geometry : Geometry) (settings : Settings R) (mode : Mode) (spec : DeviceSpec)
    (link : Link σ) : Run σ R :=
  let start : Run σ R := ⟨link, Context.new spec settings.threshold.thdacMax settings.trim.mid⟩
  match (stagesWith runPass bench geometry settings (mode.onBoard spec.flavor)).run start with
  | (.ok (), run) => { run with context := { run.context with status := .resolved } }
  | (.error cause, run) => giveUp run cause

/-- Passes made as they are make a calibration as it is. -/
theorem calibrate_eq (link : Link σ) : calibrate bench geometry settings mode spec link =
    calibrateWith (Trim.runPass bench settings.trim) bench geometry settings mode spec link :=
  rfl

variable {pass : Nat → Trim.Pass → Stage σ R (Trim.PassOutcome R)}
  {pass' : Nat → Trim.Pass → Stage τ R (Trim.PassOutcome R)}

theorem stagesWith_alike (h : Bench.Alike rel bench bench')
    (hpass : ∀ dac which, Stage.Alike rel (pass dac which) (pass' dac which)) :
    Stage.Alike rel (stagesWith pass bench geometry settings mode)
      (stagesWith pass' bench' geometry settings mode) := by
  refine (Baseline.sampleAll_alike h).bind fun _ ↦ (classify_alike h.toLasts _).bind fun _ ↦ ?_
  refine .ite (.pure _) ?_
  refine (Threshold.solve_alike h).bind fun constants ↦ (Stage.alike_update _).bind fun _ ↦ ?_
  refine (Threshold.recheckMargin_alike h).bind fun _ ↦ .ite (.pure _) ?_
  exact Trim.optimizeWith_alike h hpass

/-- Contexts agree however the calibrations end. -/
theorem calibrateWith_alike {link : Link σ} {link' : Link τ} (h : Bench.Alike rel bench bench')
    (hpass : ∀ dac which, Stage.Alike rel (pass dac which) (pass' dac which))
    (hlink : rel link link') :
    Run.Paired rel (calibrateWith pass bench geometry settings mode spec link)
      (calibrateWith pass' bench' geometry settings mode spec link') := by
  let start := Context.new (R := R) spec settings.threshold.thdacMax settings.trim.mid
  have hboth := stagesWith_alike geometry settings (mode.onBoard spec.flavor) h hpass
    ⟨link, start⟩ ⟨link', start⟩ ⟨hlink, rfl⟩
  rw [calibrateWith, calibrateWith]
  dsimp only
  generalize (stagesWith pass bench geometry settings (mode.onBoard spec.flavor)).run _ = left
    at hboth ⊢
  generalize (stagesWith pass' bench' geometry settings (mode.onBoard spec.flavor)).run _ = right
    at hboth ⊢
  obtain ⟨answer, run⟩ := left
  obtain ⟨_, run'⟩ := right
  obtain ⟨rfl, hlinks, hcontexts⟩ := hboth
  cases answer with
  | ok => exact ⟨hlinks, congrArg (fun context ↦ { context with status := .resolved }) hcontexts⟩
  | error cause => exact ⟨h.notice rfl hlinks, congrArg (·.fail cause) hcontexts⟩

theorem calibrate_alike {link : Link σ} {link' : Link τ} (h : Bench.Alike rel bench bench')
    (hlink : rel link link') :
    Run.Paired rel (calibrate bench geometry settings mode spec link)
      (calibrate bench' geometry settings mode spec link') := by
  rw [calibrate_eq, calibrate_eq]
  exact calibrateWith_alike geometry settings mode spec h (fun _ _ ↦ Trim.runPass_alike h _ _) hlink

end Calibration

/-- What every step of a run keeps, a calibration keeps. -/
theorem Calibration.calibrate_keeps {I : Link σ → Prop} (h : Link.Kept I bench)
    (geometry : Geometry) (settings : Settings R) (mode : Mode) (spec : DeviceSpec)
    {link : Link σ} (hlink : I link) :
    I (calibrate bench geometry settings mode spec link).link :=
  (calibrate_alike geometry settings mode spec h.alike ⟨hlink, rfl⟩).1.1

namespace Calibrator

variable (calibrator : Calibrator σ R)

omit [Scalar R] in
/-- Pushing registers back makes one write, and says so when it fails. -/
theorem pushRegisters_eq (context : Context R) (link : Link σ) :
    calibrator.pushRegisters context link =
      let bench := calibrator.bench
      let after := Sampler.written bench context.spec.key context.registers link
      match (bench.frontEnd.write context.spec.key context.registers link.frontEnd).1 with
      | .ok () => after
      | .error _ => after.enter (.notice .writeBackFailed) := by
  rw [pushRegisters]
  dsimp only
  rw [Sampler.writeRegisters_run]
  cases (calibrator.bench.frontEnd.write context.spec.key context.registers link.frontEnd).1 <;> rfl

/-- What every step of a run keeps, a run keeps, whether or not it pushes registers back. -/
theorem run_keeps {I : Link σ → Prop} (h : Link.Kept I calibrator.bench) {link : Link σ}
    (hlink : I link) : I (calibrator.run link).2 := by
  have hrun := Calibration.calibrate_keeps h calibrator.geometry calibrator.settings
    calibrator.mode calibrator.spec hlink
  rw [run]
  dsimp only
  split
  · rw [pushRegisters_eq]
    dsimp only
    split
    · exact h.write hrun
    · exact h.notice rfl (h.write hrun)
  · exact hrun

end Calibrator

end ThresholdTrim
