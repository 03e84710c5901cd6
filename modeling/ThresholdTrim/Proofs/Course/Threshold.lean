import ThresholdTrim.Threshold
import ThresholdTrim.Proofs.Course.Sampling

/-!
# Courses of the threshold stages

Solving reads one channel and leaves the context alone; its courses relate the answer to the
journal. The margin check reads every channel in use, twice when the register is raised, and masks
those that do not answer.
-/

namespace ThresholdTrim.Threshold

open Scalar Statistics Sampler

variable {σ R : Type} [Scalar R] {bench : Bench σ R} {settings : ThresholdSettings R}
  {context : Context R} {probe dac : Nat} {baselineMv goalMv : R}

/-! ## The fit -/

/-- One guess point read, or skipped. -/
inductive GuessRead (bench : Bench σ R) (settings : ThresholdSettings R) (probe : Nat) :
    Nat → Context R → Option (R × R) → Journal → Context R → Prop
  | read {dac : Nat} {context : Context R} {level : R} {entries : Journal}
    (hlevel : MeanRead bench (context.channelKey probe) (.threshold dac context.trimMid)
      settings.guessMarginMv context.spec.flavor (.ok level) entries) :
    GuessRead bench settings probe dac context (some (ofCount dac, level)) entries context
  | skipped {dac : Nat} {context : Context R} {cause : CalibrationError R} {entries : Journal}
    (hlevel : MeanRead bench (context.channelKey probe) (.threshold dac context.trimMid)
      settings.guessMarginMv context.spec.flavor (.error cause) entries) :
    GuessRead bench settings probe dac context none (entries ++ [.notice .guessPointSkipped])
      context

theorem probeGuess_yields (dac : Nat) (context : Context R) :
    (probeGuess bench settings probe dac).Yields context
      (GuessRead bench settings probe dac context) := by
  refine Stage.ensures_bind (Stage.ensures_context ?_)
  refine Stage.ensures_bind (Stage.ensures_attempt (Stage.ensures_sample ?_))
  refine prunedMeanLevel_ensures.mono ?_
  rintro (cause | level) entries hlevel
  · refine Stage.ensures_bind (Stage.ensures_note (Stage.ensures_pure ⟨_, rfl, ?_⟩))
    exact .skipped hlevel
  · refine Stage.ensures_pure ⟨_, rfl, ?_⟩
    simpa using GuessRead.read hlevel

/-- The line through the guess points that were read. -/
def lineThrough (readings : List (Option (R × R))) : Except FitFault (Line R) :=
  Line.fit ((readings.filterMap id).map (·.1)) ((readings.filterMap id).map (·.2))

/-- The guess points read in order, and what becomes of the line through them. -/
inductive Fitted (bench : Bench σ R) (settings : ThresholdSettings R) (probe : Nat)
    (context : Context R) : Except (CalibrationError R) (Line R) → Journal → Prop
  | degenerate {readings : List (Option (R × R))} {entries : Journal} {fault : FitFault}
    (guesses : Chain (GuessRead bench settings probe) settings.guessPoints context readings entries
      context) (hfit : lineThrough readings = .error fault) :
    Fitted bench settings probe context (.error (.degenerateFit fault)) entries
  | outOfBand {readings : List (Option (R × R))} {entries : Journal} {line : Line R}
    (guesses : Chain (GuessRead bench settings probe) settings.guessPoints context readings entries
      context) (hfit : lineThrough readings = .ok line)
    (hband : Scalar.within settings.slopeMin settings.slopeMax line.slope = false) :
    Fitted bench settings probe context
      (.error (.slopeOutOfBand line.slope settings.slopeMin settings.slopeMax)) entries
  | fitted {readings : List (Option (R × R))} {entries : Journal} {line : Line R}
    (guesses : Chain (GuessRead bench settings probe) settings.guessPoints context readings entries
      context) (hfit : lineThrough readings = .ok line)
    (hband : Scalar.within settings.slopeMin settings.slopeMax line.slope = true) :
    Fitted bench settings probe context (.ok line) entries

theorem fitResponse_ensures (context : Context R) :
    (fitResponse bench settings probe).Ensures context fun answer entries after ↦
      after = context ∧ Fitted bench settings probe context answer entries := by
  refine Stage.ensures_bind ((Stage.yields_mapM probeGuess_yields _).mono ?_)
  rintro _ entries after ⟨readings, rfl, hguesses⟩
  obtain rfl : after = context :=
    hguesses.preserves (P := (· = context))
      (fun _ _ _ _ _ _ hstep hk ↦ by cases hstep <;> exact hk) rfl
  dsimp only
  rw [← lineThrough]
  rcases hfit : lineThrough readings with fault | line
  · refine Stage.ensures_throw ⟨rfl, ?_⟩
    simpa using Fitted.degenerate hguesses hfit
  · dsimp only
    split
    · rename_i hband
      refine Stage.ensures_pure ⟨rfl, ?_⟩
      simpa using Fitted.fitted hguesses hfit hband
    · rename_i hband
      refine Stage.ensures_throw ⟨rfl, ?_⟩
      simpa using Fitted.outOfBand hguesses hfit (by simpa using hband)

/-- A fit, with a second one after a slope out of the band. -/
inductive FittedTwice (bench : Bench σ R) (settings : ThresholdSettings R) (probe : Nat)
    (context : Context R) : Except (CalibrationError R) (Line R) → Journal → Prop
  | fitted {line : Line R} {entries : Journal}
    (first : Fitted bench settings probe context (.ok line) entries) :
    FittedTwice bench settings probe context (.ok line) entries
  | degenerate {cause : CalibrationError R} {entries : Journal}
    (first : Fitted bench settings probe context (.error cause) entries)
    (hcause : ∀ slope low high, cause ≠ .slopeOutOfBand slope low high) :
    FittedTwice bench settings probe context (.error cause) entries
  | again {slope low high : R} {result : Except (CalibrationError R) (Line R)}
    {entries later : Journal}
    (first : Fitted bench settings probe context (.error (.slopeOutOfBand slope low high)) entries)
    (second : Fitted bench settings probe context result later) :
    FittedTwice bench settings probe context result
      (entries ++ .notice .refitting :: .pause :: later)

theorem fitWithRefit_ensures (context : Context R) :
    (fitWithRefit bench settings probe).Ensures context fun answer entries after ↦
      after = context ∧ FittedTwice bench settings probe context answer entries := by
  refine Stage.ensures_bind (Stage.ensures_attempt ((fitResponse_ensures context).mono ?_))
  rintro (cause | line) entries after ⟨rfl, hfirst⟩
  · dsimp only
    split
    · rename_i hresult
      cases hresult
    · rename_i hresult
      obtain rfl := Except.error.inj hresult
      refine Stage.ensures_bind (Stage.ensures_note ?_)
      refine Stage.ensures_bind (Stage.ensures_sample (ensures_pause ?_))
      refine (fitResponse_ensures after).mono ?_
      rintro answer later _ ⟨rfl, hsecond⟩
      exact ⟨rfl, .again hfirst hsecond⟩
    · rename_i hcause hresult
      obtain rfl := Except.error.inj hresult
      refine Stage.ensures_throw ⟨rfl, ?_⟩
      simpa using FittedTwice.degenerate hfirst hcause
  · refine Stage.ensures_pure ⟨rfl, ?_⟩
    simpa using FittedTwice.fitted hfirst

/-! ## Candidates -/

/-- A level that will do is returned as it is. -/
theorem checkRealized_eq_ok {flavor : Flavor} {tolerance level accepted : R}
    (h : checkRealized flavor tolerance baselineMv goalMv level = .ok accepted) :
    accepted = level := by
  rw [checkRealized] at h
  split at h
  · cases h
  · split at h
    · cases h
    · exact (Except.ok.inj h).symm

/-- The candidate read and judged. -/
inductive CandidateTried (bench : Bench σ R) (settings : ThresholdSettings R) (probe dac : Nat)
    (baselineMv goalMv : R) (context : Context R) :
    Except (CalibrationError R) R → Journal → Prop
  | unread {cause : CalibrationError R} {entries : Journal}
    (hlevel : MeanRead bench (context.channelKey probe) (.threshold dac context.trimMid)
      settings.guessMarginMv context.spec.flavor (.error cause) entries) :
    CandidateTried bench settings probe dac baselineMv goalMv context (.error cause) entries
  | rejected {level : R} {cause : CalibrationError R} {entries : Journal}
    (hlevel : MeanRead bench (context.channelKey probe) (.threshold dac context.trimMid)
      settings.guessMarginMv context.spec.flavor (.ok level) entries)
    (hcheck : checkRealized context.spec.flavor settings.deviationTolerance baselineMv goalMv
      level = .error cause) :
    CandidateTried bench settings probe dac baselineMv goalMv context (.error cause) entries
  | accepted {level : R} {entries : Journal}
    (hlevel : MeanRead bench (context.channelKey probe) (.threshold dac context.trimMid)
      settings.guessMarginMv context.spec.flavor (.ok level) entries)
    (hcheck : checkRealized context.spec.flavor settings.deviationTolerance baselineMv goalMv
      level = .ok level) :
    CandidateTried bench settings probe dac baselineMv goalMv context (.ok level) entries

theorem tryCandidate_ensures (context : Context R) :
    (tryCandidate bench settings probe dac baselineMv goalMv).Ensures context
      fun answer entries after ↦ after = context ∧
        CandidateTried bench settings probe dac baselineMv goalMv context answer entries := by
  refine Stage.ensures_bind (Stage.ensures_context ?_)
  refine Stage.ensures_bind (Stage.ensures_sample ?_)
  refine prunedMeanLevel_ensures.mono ?_
  rintro (cause | level) entries hlevel
  · exact ⟨rfl, .unread hlevel⟩
  · dsimp only
    rcases hcheck : checkRealized context.spec.flavor settings.deviationTolerance baselineMv goalMv
        level with cause | accepted
    · refine Stage.ensures_throw ⟨rfl, ?_⟩
      simpa using CandidateTried.rejected hlevel hcheck
    · obtain rfl := checkRealized_eq_ok hcheck
      refine Stage.ensures_pure ⟨rfl, ?_⟩
      simpa using CandidateTried.accepted hlevel hcheck

/-- The candidate tried until it is accepted, `further` times at most after the first. -/
inductive Verified (bench : Bench σ R) (settings : ThresholdSettings R) (probe dac : Nat)
    (baselineMv goalMv : R) (context : Context R) :
    Nat → Except (CalibrationError R) R → Journal → Prop
  | rejected {cause : CalibrationError R} {entries : Journal}
    (tried : CandidateTried bench settings probe dac baselineMv goalMv context (.error cause)
      entries) :
    Verified bench settings probe dac baselineMv goalMv context 0 (.error cause)
      (entries ++ [.notice .candidateRejected])
  | accepted {further : Nat} {level : R} {entries : Journal}
    (tried : CandidateTried bench settings probe dac baselineMv goalMv context (.ok level)
      entries) :
    Verified bench settings probe dac baselineMv goalMv context further (.ok level) entries
  | again {further : Nat} {cause : CalibrationError R} {result : Except (CalibrationError R) R}
    {entries later : Journal}
    (tried : CandidateTried bench settings probe dac baselineMv goalMv context (.error cause)
      entries)
    (rest : Verified bench settings probe dac baselineMv goalMv context further result later) :
    Verified bench settings probe dac baselineMv goalMv context (further + 1) result
      (entries ++ .notice .candidateRejected :: .pause :: later)

theorem verify_ensures (further : Nat) (context : Context R) :
    (verify bench settings probe dac baselineMv goalMv further).Ensures context
      fun answer entries after ↦ after = context ∧
        Verified bench settings probe dac baselineMv goalMv context further answer entries := by
  induction further with
  | zero =>
    refine Stage.ensures_bind (Stage.ensures_attempt ((tryCandidate_ensures context).mono ?_))
    rintro (cause | level) entries after ⟨rfl, htried⟩
    · refine Stage.ensures_bind (Stage.ensures_note (Stage.ensures_throw ⟨rfl, ?_⟩))
      exact .rejected htried
    · refine Stage.ensures_pure ⟨rfl, ?_⟩
      simpa using Verified.accepted htried
  | succ further ih =>
    refine Stage.ensures_bind (Stage.ensures_attempt ((tryCandidate_ensures context).mono ?_))
    rintro (cause | level) entries after ⟨rfl, htried⟩
    · refine Stage.ensures_bind (Stage.ensures_note ?_)
      refine Stage.ensures_bind (Stage.ensures_sample (ensures_pause ?_))
      refine ih.mono ?_
      rintro answer later _ ⟨rfl, hrest⟩
      exact ⟨rfl, .again htried hrest⟩
    · refine Stage.ensures_pure ⟨rfl, ?_⟩
      simpa using Verified.accepted htried

/-! ## Solving -/

/-- The register solved for on the first channel in use. -/
inductive Solved (bench : Bench σ R) (settings : ThresholdSettings R) (context : Context R) :
    Except (CalibrationError R) (ThresholdConstants R) → Journal → Prop
  | noBaseline (hdevice : context.deviceBaseline = none) :
    Solved bench settings context (.error .noData) []
  | noProbe (hprobe : context.mask.unmasked.head? = none) :
    Solved bench settings context (.error .noData) []
  | unfitted {probe : Nat} {cause : CalibrationError R} {entries : Journal}
    (hprobe : context.mask.unmasked.head? = some probe)
    (fit : FittedTwice bench settings probe context (.error cause) entries) :
    Solved bench settings context (.error cause) entries
  | unsolvable {device : DeviceBaseline R} {probe : Nat} {line : Line R}
    {cause : CalibrationError R} {entries : Journal}
    (hdevice : context.deviceBaseline = some device)
    (hprobe : context.mask.unmasked.head? = some probe)
    (fit : FittedTwice bench settings probe context (.ok line) entries)
    (hdac : invertTarget line
      (context.spec.flavor.toCounts (targetMv device context.spec.flavor settings))
      settings.thdacMax = .error cause) :
    Solved bench settings context (.error cause) entries
  | unverified {device : DeviceBaseline R} {probe dac : Nat} {line : Line R}
    {cause : CalibrationError R} {entries later : Journal}
    (hdevice : context.deviceBaseline = some device)
    (hprobe : context.mask.unmasked.head? = some probe)
    (fit : FittedTwice bench settings probe context (.ok line) entries)
    (hdac : invertTarget line
      (context.spec.flavor.toCounts (targetMv device context.spec.flavor settings))
      settings.thdacMax = .ok dac)
    (verify : Verified bench settings probe dac (context.spec.flavor.toMillivolts device.median)
      (targetMv device context.spec.flavor settings) context (bench.sampling.attempts - 1)
      (.error cause) later) :
    Solved bench settings context (.error cause) (entries ++ later)
  | solved {device : DeviceBaseline R} {probe dac : Nat} {line : Line R} {realized : R}
    {entries later : Journal} (hdevice : context.deviceBaseline = some device)
    (hprobe : context.mask.unmasked.head? = some probe)
    (fit : FittedTwice bench settings probe context (.ok line) entries)
    (hdac : invertTarget line
      (context.spec.flavor.toCounts (targetMv device context.spec.flavor settings))
      settings.thdacMax = .ok dac)
    (verify : Verified bench settings probe dac (context.spec.flavor.toMillivolts device.median)
      (targetMv device context.spec.flavor settings) context (bench.sampling.attempts - 1)
      (.ok realized) later) :
    Solved bench settings context
      (.ok ⟨line.slope, line.intercept, dac,
        context.spec.flavor.toCounts (targetMv device context.spec.flavor settings), realized⟩)
      (entries ++ later)

theorem solve_ensures (context : Context R) :
    (solve bench settings).Ensures context fun answer entries after ↦
      after = context ∧ Solved bench settings context answer entries := by
  refine Stage.ensures_bind (Stage.ensures_context ?_)
  refine Stage.ensures_bind (Stage.ensures_need (fun hnone ↦ ?_) fun device hdevice ↦ ?_)
  · exact ⟨rfl, .noBaseline hnone⟩
  refine Stage.ensures_bind (Stage.ensures_need (fun hnone ↦ ?_) fun probe hprobe ↦ ?_)
  · exact ⟨rfl, .noProbe hnone⟩
  refine Stage.ensures_bind ((fitWithRefit_ensures context).mono ?_)
  rintro (cause | line) entries after ⟨rfl, hfit⟩
  · exact ⟨rfl, .unfitted hprobe hfit⟩
  dsimp only
  split
  · rename_i cause hdac
    refine Stage.ensures_throw ⟨rfl, ?_⟩
    simpa using Solved.unsolvable hdevice hprobe hfit hdac
  · rename_i dac hdac
    refine Stage.ensures_bind ((verify_ensures _ _).mono ?_)
    rintro (cause | realized) later _ ⟨rfl, hverify⟩
    · refine ⟨rfl, ?_⟩
      simpa using Solved.unverified hdevice hprobe hfit hdac hverify
    · refine Stage.ensures_pure ⟨rfl, ?_⟩
      simpa using Solved.solved hdevice hprobe hfit hdac hverify

/-! ## The margin -/

/-- The level of the first channel in use at mid trim. -/
inductive RealizedRead (bench : Bench σ R) (dac : Nat) (context : Context R) :
    Except (CalibrationError R) R → Journal → Prop
  | noProbe (hprobe : context.mask.unmasked.head? = none) :
    RealizedRead bench dac context (.error .noData) []
  | read {probe : Nat} {result : Except (CalibrationError R) R} {entries : Journal}
    (hprobe : context.mask.unmasked.head? = some probe)
    (hlevel : LevelRead bench (context.channelKey probe) (.threshold dac context.trimMid) result
      entries) : RealizedRead bench dac context result entries

theorem RealizedRead.exists_level {realized : R} {entries : Journal}
    (h : RealizedRead bench dac context (.ok realized) entries) :
    ∃ probe, context.mask.unmasked.head? = some probe ∧
      LevelRead bench (context.channelKey probe) (.threshold dac context.trimMid) (.ok realized)
        entries := by
  cases h with
  | read hprobe hlevel => exact ⟨_, hprobe, hlevel⟩

theorem measureRealized_ensures (context : Context R) :
    (measureRealized bench dac).Ensures context fun answer entries after ↦
      after = context ∧ RealizedRead bench dac context answer entries := by
  refine Stage.ensures_bind (Stage.ensures_context ?_)
  refine Stage.ensures_bind (Stage.ensures_need (fun hnone ↦ ?_) fun probe hprobe ↦ ?_)
  · exact ⟨rfl, .noProbe hnone⟩
  · refine Stage.ensures_sample (medianLevel_ensures.mono ?_)
    intro answer entries hlevel
    exact ⟨rfl, .read hprobe hlevel⟩

/-- One channel at mid trim. -/
inductive MidEffRead (bench : Bench σ R) (dac : Nat) :
    Nat → Context R → Option R → Journal → Context R → Prop
  | masked {channel : Nat} {context : Context R}
    (hmasked : context.mask.isMasked channel = true) :
    MidEffRead bench dac channel context none [] context
  | read {channel : Nat} {context : Context R} {level : R} {entries : Journal}
    (hmasked : context.mask.isMasked channel = false)
    (hlevel : LevelRead bench (context.channelKey channel) (.threshold dac context.trimMid)
      (.ok level) entries) :
    MidEffRead bench dac channel context (some (level - (context.baseline channel).median)) entries
      context
  | failed {channel : Nat} {context : Context R} {cause : CalibrationError R} {entries : Journal}
    (hmasked : context.mask.isMasked channel = false)
    (hlevel : LevelRead bench (context.channelKey channel) (.threshold dac context.trimMid)
      (.error cause) entries) :
    MidEffRead bench dac channel context none
      (entries ++ [.notice .noMidTrim, .masked channel .noData])
      (context.withMask (context.mask.mask channel .noData))

theorem midEff_yields (channel : Nat) (context : Context R) :
    (midEff bench dac channel).Yields context (MidEffRead bench dac channel context) := by
  refine Stage.ensures_bind (Stage.ensures_context ?_)
  dsimp only
  split
  · rename_i hmasked
    exact Stage.ensures_pure ⟨_, rfl, .masked hmasked⟩
  · rename_i hmasked
    rw [Bool.not_eq_true] at hmasked
    refine Stage.ensures_bind (Stage.ensures_attempt (Stage.ensures_sample ?_))
    refine medianLevel_ensures.mono ?_
    rintro (cause | level) entries hlevel
    · refine Stage.ensures_bind (Stage.ensures_note ?_)
      refine Stage.ensures_bind (Stage.ensures_mask (Stage.ensures_pure ⟨_, rfl, ?_⟩))
      exact .failed hmasked hlevel
    · refine Stage.ensures_pure ⟨_, rfl, ?_⟩
      simpa using MidEffRead.read hmasked hlevel

/-- Every channel in use at mid trim, and the median over those that answered. -/
inductive MidMeasured (bench : Bench σ R) (dac : Nat) (context : Context R) :
    Except (CalibrationError R) (MidTrim R) → Journal → Context R → Prop
  | noData {effs : List (Option R)} {entries : Journal} {after : Context R}
    (channels : Chain (MidEffRead bench dac) (List.range context.spec.channels) context effs entries
      after) (hmedian : scalarMedian (effs.filterMap id) = none) :
    MidMeasured bench dac context (.error .noData) entries after
  | measured {effs : List (Option R)} {deviceEff : R} {entries : Journal} {after : Context R}
    (channels : Chain (MidEffRead bench dac) (List.range context.spec.channels) context effs entries
      after) (hmedian : scalarMedian (effs.filterMap id) = some deviceEff) :
    MidMeasured bench dac context (.ok ⟨effs, deviceEff⟩) entries after

theorem measureMid_ensures (context : Context R) :
    (measureMid bench dac).Ensures context (MidMeasured bench dac context) := by
  refine Stage.ensures_bind (Stage.ensures_context ?_)
  refine Stage.ensures_bind ((Stage.yields_mapM midEff_yields _).mono ?_)
  rintro _ entries after ⟨effs, rfl, hchannels⟩
  refine Stage.ensures_bind (Stage.ensures_need (fun hnone ↦ ?_) fun deviceEff hmedian ↦ ?_)
  · simpa using MidMeasured.noData hchannels hnone
  · refine Stage.ensures_pure ?_
    simpa using MidMeasured.measured hchannels hmedian

/-- What is said about the second measurement. -/
def marginNotices (settings : ThresholdSettings R) (flavor : Flavor) (mid : MidTrim R) :
    List Notice :=
  if lt mid.deviceEff (flavor.toCounts settings.minMarginMv) then [.marginStillMissed] else []

/-- The device at mid trim, at the register it was solved for or at a raised one. -/
inductive MarginChecked (bench : Bench σ R) (settings : ThresholdSettings R)
    (context : Context R) : Except (CalibrationError R) (MidTrim R) → Journal → Context R → Prop
  | noThreshold (hthreshold : context.threshold = none) :
    MarginChecked bench settings context (.error .noData) [] context
  | noBaseline (hdevice : context.deviceBaseline = none) :
    MarginChecked bench settings context (.error .noData) [] context
  | unmeasured {constants : ThresholdConstants R} {cause : CalibrationError R} {entries : Journal}
    {after : Context R} (hthreshold : context.threshold = some constants)
    (first : MidMeasured bench constants.dac context (.error cause) entries after) :
    MarginChecked bench settings context (.error cause) entries after
  | kept {constants : ThresholdConstants R} {mid : MidTrim R} {entries : Journal}
    {after : Context R} (hthreshold : context.threshold = some constants)
    (first : MidMeasured bench constants.dac context (.ok mid) entries after)
    (hmargin : lt mid.deviceEff (context.spec.flavor.toCounts settings.minMarginMv) = false) :
    MarginChecked bench settings context (.ok mid) entries { after with mid := some mid }
  | unmeasuredAgain {constants : ThresholdConstants R} {device : DeviceBaseline R} {mid : MidTrim R}
    {cause : CalibrationError R} {entries later : Journal} {between after : Context R}
    (hthreshold : context.threshold = some constants)
    (hdevice : context.deviceBaseline = some device)
    (first : MidMeasured bench constants.dac context (.ok mid) entries between)
    (hmargin : lt mid.deviceEff (context.spec.flavor.toCounts settings.minMarginMv) = true)
    (second : MidMeasured bench (raisedForMargin constants device settings.thdacMax) between
      (.error cause) later after) :
    MarginChecked bench settings context (.error cause)
      (entries ++ .notice .raisingForMargin :: later) after
  | unrealized {constants : ThresholdConstants R} {device : DeviceBaseline R}
    {mid again : MidTrim R} {cause : CalibrationError R} {entries later last : Journal}
    {between after : Context R}
    (hthreshold : context.threshold = some constants)
    (hdevice : context.deviceBaseline = some device)
    (first : MidMeasured bench constants.dac context (.ok mid) entries between)
    (hmargin : lt mid.deviceEff (context.spec.flavor.toCounts settings.minMarginMv) = true)
    (second : MidMeasured bench (raisedForMargin constants device settings.thdacMax) between
      (.ok again) later after)
    (probe : RealizedRead bench (raisedForMargin constants device settings.thdacMax) after
      (.error cause) last) :
    MarginChecked bench settings context (.error cause)
      (entries ++ .notice .raisingForMargin :: later ++ last) after
  | raised {constants : ThresholdConstants R} {device : DeviceBaseline R} {mid again : MidTrim R}
    {realized : R} {entries later last : Journal} {between after : Context R} {dac : Nat}
    (hthreshold : context.threshold = some constants)
    (hdevice : context.deviceBaseline = some device)
    (hdac : dac = raisedForMargin constants device settings.thdacMax)
    (first : MidMeasured bench constants.dac context (.ok mid) entries between)
    (hmargin : lt mid.deviceEff (context.spec.flavor.toCounts settings.minMarginMv) = true)
    (second : MidMeasured bench dac between (.ok again) later after)
    (probe : RealizedRead bench dac after (.ok realized) last) :
    MarginChecked bench settings context (.ok again)
      (entries ++ .notice .raisingForMargin :: later ++ last ++
        (marginNotices settings context.spec.flavor again).map .notice)
      { after with threshold := some { constants with dac, realized }, mid := some again }

theorem recheckMargin_ensures (context : Context R) :
    (recheckMargin bench settings).Ensures context (MarginChecked bench settings context) := by
  refine Stage.ensures_bind (Stage.ensures_context ?_)
  refine Stage.ensures_bind (Stage.ensures_need (fun hnone ↦ ?_) fun constants hthreshold ↦ ?_)
  · exact .noThreshold hnone
  refine Stage.ensures_bind (Stage.ensures_need (fun hnone ↦ ?_) fun device hdevice ↦ ?_)
  · exact .noBaseline hnone
  refine Stage.ensures_bind ((measureMid_ensures context).mono ?_)
  rintro (cause | mid) entries between hfirst
  · exact .unmeasured hthreshold hfirst
  dsimp only
  split
  · rename_i hmargin
    refine Stage.ensures_bind (Stage.ensures_note ?_)
    refine Stage.ensures_bind ((measureMid_ensures between).mono ?_)
    rintro (cause | again) later after hsecond
    · simpa using MarginChecked.unmeasuredAgain hthreshold hdevice hfirst hmargin hsecond
    refine Stage.ensures_bind ((measureRealized_ensures after).mono ?_)
    rintro (cause | realized) last _ ⟨rfl, hprobe⟩
    · simpa using MarginChecked.unrealized hthreshold hdevice hfirst hmargin hsecond hprobe
    refine Stage.ensures_bind (Stage.ensures_update ?_)
    refine Stage.ensures_note_if (Stage.ensures_bind (Stage.ensures_pure ?_))
    refine Stage.ensures_bind (Stage.ensures_update (Stage.ensures_pure ?_))
    simpa [marginNotices, apply_ite] using
      MarginChecked.raised hthreshold hdevice rfl hfirst hmargin hsecond hprobe
  · rename_i hmargin
    rw [Bool.not_eq_true] at hmargin
    refine Stage.ensures_bind (Stage.ensures_pure ?_)
    refine Stage.ensures_bind (Stage.ensures_update (Stage.ensures_pure ?_))
    simpa using MarginChecked.kept hthreshold hfirst hmargin

/-! ## What the threshold stages keep -/

variable {remit : Remit} {entries : Journal} {after : Context R}

omit [Scalar R] in
/-- A channel in use can be addressed. -/
theorem addresses_of_head? {setting : Setting} {count : Nat} (hfits : context.Fits)
    (hprobe : context.mask.unmasked.head? = some probe) :
    Request.Addresses ⟨context.channelKey probe, setting, count⟩ context.spec context.mask := by
  obtain ⟨hinside, hunmasked⟩ :=
    ChannelMask.lt_length_of_mem_unmasked (List.mem_of_head? hprobe)
  exact ⟨rfl, hfits ▸ hinside, hunmasked⟩

theorem guesses_follow {dacs : List Nat} {readings : List (Option (R × R))}
    (h : Chain (GuessRead bench settings probe) dacs context readings entries after)
    (hfits : context.Fits) (hprobe : context.mask.unmasked.head? = some probe)
    (hguess : ∀ dac ∈ dacs, remit.Allows (.threshold dac context.trimMid)) :
    context.Follows remit entries context := by
  induction h with
  | nil => exact .refl
  | cons head _ ih =>
    have hrest := fun dac hmem ↦ hguess dac (List.mem_cons_of_mem _ hmem)
    have hdac := hguess _ List.mem_cons_self
    cases head with
    | read hlevel =>
      have hread := hlevel.asks.follows (addresses_of_head? hfits hprobe) (hdac _ _)
      exact hread.trans (ih hfits hprobe hrest)
    | skipped hlevel =>
      have hread := hlevel.asks.follows (addresses_of_head? hfits hprobe) (hdac _ _)
      exact (hread.trans (Context.follows_notice _)).trans (ih hfits hprobe hrest)

theorem Fitted.follows {result : Except (CalibrationError R) (Line R)}
    (h : Fitted bench settings probe context result entries) (hfits : context.Fits)
    (hprobe : context.mask.unmasked.head? = some probe)
    (hguess : ∀ dac ∈ settings.guessPoints, remit.Allows (.threshold dac context.trimMid)) :
    context.Follows remit entries context := by
  cases h with
  | degenerate guesses | outOfBand guesses | fitted guesses =>
    exact guesses_follow guesses hfits hprobe hguess

theorem FittedTwice.follows {result : Except (CalibrationError R) (Line R)}
    (h : FittedTwice bench settings probe context result entries) (hfits : context.Fits)
    (hprobe : context.mask.unmasked.head? = some probe)
    (hguess : ∀ dac ∈ settings.guessPoints, remit.Allows (.threshold dac context.trimMid)) :
    context.Follows remit entries context := by
  cases h with
  | fitted first | degenerate first => exact first.follows hfits hprobe hguess
  | again first second =>
    refine (first.follows hfits hprobe hguess).trans ?_
    refine (Context.follows_notice .refitting).trans (Context.follows_pause.trans ?_)
    exact second.follows hfits hprobe hguess

theorem CandidateTried.maskings {result : Except (CalibrationError R) R}
    (h : CandidateTried bench settings probe dac baselineMv goalMv context result entries) :
    entries.maskings = [] := by
  cases h with
  | unread hlevel | rejected hlevel | accepted hlevel => exact hlevel.asks.maskings

theorem Verified.follows {further : Nat} {result : Except (CalibrationError R) R}
    (h : Verified bench settings probe dac baselineMv goalMv context further result entries)
    (hfits : context.Fits) (hprobe : context.mask.unmasked.head? = some probe)
    (hdac : remit.Allows (.threshold dac context.trimMid)) :
    context.Follows remit entries context := by
  have htried : ∀ {result entries}, CandidateTried bench settings probe dac baselineMv goalMv
      context result entries → context.Follows remit entries context := by
    intro result entries h
    cases h with
    | unread hlevel | rejected hlevel | accepted hlevel =>
      exact hlevel.asks.follows (addresses_of_head? hfits hprobe) (hdac _ _)
  induction h with
  | rejected tried => exact (htried tried).trans (Context.follows_notice _)
  | accepted tried => exact htried tried
  | again tried _ ih =>
    refine (htried tried).trans ?_
    exact (Context.follows_notice .candidateRejected).trans (Context.follows_pause.trans ih)

/-- Solving reads the first channel in use, at the guess points and at the register value the fit
was inverted to. -/
theorem Solved.follows {result : Except (CalibrationError R) (ThresholdConstants R)}
    (h : Solved bench settings context result entries) (hfits : context.Fits)
    (hguess : ∀ dac ∈ settings.guessPoints, remit.Allows (.threshold dac context.trimMid))
    (hsolved : ∀ line target dac, invertTarget (R := R) line target settings.thdacMax = .ok dac →
      remit.Allows (.threshold dac context.trimMid)) :
    context.Follows remit entries context := by
  cases h with
  | noBaseline | noProbe => exact .refl
  | unfitted hprobe fit | unsolvable _ hprobe fit => exact fit.follows hfits hprobe hguess
  | unverified _ hprobe fit hdac verify | solved _ hprobe fit hdac verify =>
    refine (fit.follows hfits hprobe hguess).trans ?_
    exact verify.follows hfits hprobe (hsolved _ _ _ hdac)

theorem RealizedRead.follows {result : Except (CalibrationError R) R}
    (h : RealizedRead bench dac context result entries) (hfits : context.Fits)
    (hdac : remit.Allows (.threshold dac context.trimMid)) :
    context.Follows remit entries context := by
  cases h with
  | noProbe => exact .refl
  | read hprobe hlevel =>
    exact hlevel.asks.follows (addresses_of_head? hfits hprobe) (hdac _ _)

theorem RealizedRead.maskings {result : Except (CalibrationError R) R}
    (h : RealizedRead bench dac context result entries) : entries.maskings = [] := by
  cases h with
  | noProbe => rfl
  | read _ hlevel => exact hlevel.asks.maskings

theorem MidEffRead.replay {channel : Nat} {eff : Option R}
    (h : MidEffRead bench dac channel context eff entries after) :
    after = context.replay entries := by
  cases h with
  | masked => rfl
  | read _ hlevel => rw [Context.replay_of_maskings_eq_nil hlevel.asks.maskings]
  | failed _ hlevel =>
    rw [Context.replay_append, Context.replay_of_maskings_eq_nil hlevel.asks.maskings]
    rfl

theorem MidEffRead.follows {channel : Nat} {eff : Option R}
    (h : MidEffRead bench dac channel context eff entries after)
    (hinside : channel < context.spec.channels)
    (hdac : remit.Allows (.threshold dac context.trimMid))
    (hnoData : remit.masking channel .noData) : context.Follows remit entries after := by
  cases h with
  | masked => exact .refl
  | read hmasked hlevel => exact hlevel.asks.follows ⟨rfl, hinside, hmasked⟩ (hdac _ _)
  | failed hmasked hlevel =>
    refine (hlevel.asks.follows ⟨rfl, hinside, hmasked⟩ (hdac _ _)).trans ?_
    exact (Context.follows_notice _).trans (Context.follows_masked hnoData)

theorem MidMeasured.eq_noData {cause : CalibrationError R}
    (h : MidMeasured bench dac context (.error cause) entries after) : cause = .noData := by
  cases h
  rfl

theorem MidMeasured.replay {result : Except (CalibrationError R) (MidTrim R)}
    (h : MidMeasured bench dac context result entries after) : after = context.replay entries := by
  cases h with
  | noData channels | measured channels =>
    exact channels.replay id fun _ _ _ _ _ hstep ↦ hstep.replay

theorem MidMeasured.spec {result : Except (CalibrationError R) (MidTrim R)}
    (h : MidMeasured bench dac context result entries after) : after.spec = context.spec := by
  rw [h.replay]
  rfl

theorem MidMeasured.follows {result : Except (CalibrationError R) (MidTrim R)}
    (h : MidMeasured bench dac context result entries after)
    (hdac : remit.Allows (.threshold dac context.trimMid)) (hnoData : remit.Masks .noData) :
    context.Follows remit entries after := by
  cases h with
  | noData channels | measured channels =>
    refine channels.follows id fun channel hmem before k₁ eff own k₂ hbefore hstep ↦ ?_
    refine hstep.follows ?_ ?_ (hnoData channel)
    · exact hbefore.spec ▸ List.mem_range.mp hmem
    · exact hbefore.trimMid ▸ hdac

theorem follows_again {first result : Except (CalibrationError R) (MidTrim R)} {again : Nat}
    {later : Journal} {between : Context R}
    (hfirst : MidMeasured bench dac context first entries between)
    (hsecond : MidMeasured bench again between result later after)
    (hdac : remit.Allows (.threshold dac context.trimMid))
    (hagain : remit.Allows (.threshold again context.trimMid)) (hnoData : remit.Masks .noData) :
    context.Follows remit (entries ++ .notice .raisingForMargin :: later) after := by
  have hbetween := hfirst.follows hdac hnoData
  refine hbetween.trans ((Context.follows_notice .raisingForMargin).trans ?_)
  exact hsecond.follows (hbetween.trimMid ▸ hagain) hnoData

/-- The check reads channels in use at the register value there is and at the one it is raised to,
and masks those that do not answer. -/
theorem MarginChecked.follows {result : Except (CalibrationError R) (MidTrim R)}
    (h : MarginChecked bench settings context result entries after) (hfits : context.Fits)
    (hkept : ∀ constants, context.threshold = some constants →
      remit.Allows (.threshold constants.dac context.trimMid))
    (hraised : ∀ (constants : ThresholdConstants R) device,
      remit.Allows (.threshold (raisedForMargin constants device settings.thdacMax)
        context.trimMid)) (hnoData : remit.Masks .noData) :
    context.Follows remit entries after := by
  cases h with
  | noThreshold | noBaseline => exact .refl
  | unmeasured hthreshold first => exact first.follows (hkept _ hthreshold) hnoData
  | kept hthreshold first =>
    exact (first.follows (hkept _ hthreshold) hnoData).filled rfl rfl rfl rfl
  | unmeasuredAgain hthreshold hdevice first _ second =>
    exact follows_again first second (hkept _ hthreshold) (hraised _ _) hnoData
  | unrealized hthreshold hdevice first _ second probe =>
    have hagain := follows_again first second (hkept _ hthreshold) (hraised _ _) hnoData
    have hprobe := probe.follows (hagain.fits hfits) (hagain.trimMid ▸ hraised _ _)
    exact hagain.trans hprobe
  | @raised _ _ _ again _ _ _ _ _ _ _ hthreshold hdevice hdac first hmargin second probe =>
    subst hdac
    have hagain := follows_again first second (hkept _ hthreshold) (hraised _ _) hnoData
    have hprobe := probe.follows (hagain.fits hfits) (hagain.trimMid ▸ hraised _ _)
    have hlast := (hagain.trans hprobe).trans
      (Context.follows_notices (marginNotices settings context.spec.flavor again))
    exact hlast.filled rfl rfl rfl rfl

/-- The check fills in the mask, the thresholds at mid trim, and the register if it raises it. -/
theorem MarginChecked.replay {result : Except (CalibrationError R) (MidTrim R)}
    (h : MarginChecked bench settings context result entries after) :
    after = { context.replay entries with threshold := after.threshold, mid := after.mid } := by
  have hnotice : ∀ (context : Context R) later,
      context.replay (.notice .raisingForMargin :: later) = context.replay later := fun _ _ ↦ rfl
  cases h with
  | noThreshold | noBaseline => rfl
  | unmeasured _ first | kept _ first => rw [first.replay]
  | unmeasuredAgain _ _ first _ second =>
    rw [Context.replay_append, hnotice, second.replay, first.replay]
  | unrealized _ _ first _ second probe =>
    rw [Context.replay_append, Context.replay_append, hnotice,
      Context.replay_of_maskings_eq_nil probe.maskings, second.replay, first.replay]
  | raised _ _ _ first _ second probe =>
    rw [Context.replay_append, Context.replay_append, Context.replay_append, hnotice,
      Context.replay_of_maskings_eq_nil (Journal.maskings_notices _),
      Context.replay_of_maskings_eq_nil probe.maskings, second.replay, first.replay]

theorem MarginChecked.spec {result : Except (CalibrationError R) (MidTrim R)}
    (h : MarginChecked bench settings context result entries after) :
    after.spec = context.spec := by
  rw [h.replay]
  rfl

theorem MarginChecked.fits {result : Except (CalibrationError R) (MidTrim R)}
    (h : MarginChecked bench settings context result entries after) (hfits : context.Fits) :
    after.Fits := by
  rw [h.replay]
  exact Context.fits_replay hfits

end ThresholdTrim.Threshold