import ThresholdTrim.Proofs.Course.Calibration
import ThresholdTrim.Proofs.Exact
import ThresholdTrim.Proofs.Meters
import ThresholdTrim.Proofs.Settings

/-!
# How much work a device is

Whatever the front-end answers, a calibration asks for a bounded number of batches, and tries each
of them a bounded number of times. The loops are nested, but none of them runs on what it reads:
retries, verification attempts and high points are counted down, and the others run over channels
and guess points. So the bound is counted along the courses, loop by loop.
-/

namespace ThresholdTrim

open Scalar

variable {σ R : Type}

/-! ## Batches -/

namespace Journal

variable {attempts k l : Nat} {entries later : Journal}

/-- The calls entered are those for at most `k` batches. -/
def Spends (attempts k : Nat) (entries : Journal) : Prop :=
  entries.requests.length ≤ attempts * k

theorem spends_nil : Spends attempts k [] := Nat.zero_le _

theorem Spends.append (h : Spends attempts k entries) (hlater : Spends attempts l later) :
    Spends attempts (k + l) (entries ++ later) := by
  rw [Spends, requests_append, List.length_append, Nat.mul_add]
  exact Nat.add_le_add h hlater

theorem Spends.mono (h : Spends attempts k entries) (hkl : k ≤ l) : Spends attempts l entries :=
  Nat.le_trans h (Nat.mul_le_mul_left attempts hkl)

/-- Entries without calls come free. -/
theorem Spends.quiet (h : Spends attempts k entries) (hlater : later.requests = []) :
    Spends attempts k (entries ++ later) := by
  rw [Spends, requests_append, hlater, List.append_nil]
  exact h

theorem spends_notices (notices : List Notice) : Spends attempts k (notices.map .notice) := by
  rw [Spends, requests_notices]
  exact Nat.zero_le _

end Journal

/-- A chain spends what its steps spend. -/
theorem Chain.spends {β γ κ : Type} {step : β → κ → γ → Journal → κ → Prop} {xs : List β}
    {ys : List γ} {entries : Journal} {k k' : κ} {attempts cost : Nat}
    (h : Chain step xs k ys entries k')
    (hstep : ∀ x k y entries k', step x k y entries k' → entries.Spends attempts cost) :
    entries.Spends attempts (xs.length * cost) := by
  induction h with
  | nil => exact Journal.spends_nil
  | cons head _ ih =>
    rw [List.length_cons, Nat.succ_mul, Nat.add_comm]
    exact (hstep _ _ _ _ _ head).append ih

namespace Sampler

variable {bench : Bench σ R} {request : Request} {entries : Journal}

theorem Tried.length_requests_le {further : Nat} {result : Except String (List Nat)}
    (h : Tried bench request further result entries) :
    entries.requests.length ≤ further + 1 := by
  induction h with
  | last => exact Nat.le_refl 1
  | found => exact Nat.le_add_left 1 _
  | again _ _ _ ih => exact Nat.succ_le_succ ih

theorem Acquired.spends {result : Except (CalibrationError R) (List Nat)}
    (h : Acquired bench request result entries) : entries.Spends bench.sampling.attempts 1 := by
  have hattempts : bench.sampling.attempts - 1 + 1 = bench.sampling.attempts * 1 := by
    rw [SamplingSettings.attempts]
    omega
  have htried : ∀ {result : Except String (List Nat)} {entries : Journal},
      Tried bench request (bench.sampling.attempts - 1) result entries →
      entries.Spends bench.sampling.attempts 1 :=
    fun tried ↦ Nat.le_trans tried.length_requests_le (Nat.le_of_eq hattempts)
  cases h with
  | whole tried => exact htried tried
  | short tried | givenUp tried => exact (htried tried).quiet rfl

variable [Scalar R] {channel : ChannelKey} {setting : Setting}
  {result : Except (CalibrationError R) R}

theorem LevelRead.spends (h : LevelRead bench channel setting result entries) :
    entries.Spends bench.sampling.attempts 1 := by
  cases h with
  | read acquired | failed acquired => exact acquired.spends

theorem MeanRead.spends {margin : R} {flavor : Flavor}
    (h : MeanRead bench channel setting margin flavor result entries) :
    entries.Spends bench.sampling.attempts 1 := by
  cases h with
  | read acquired | noneKept acquired | failed acquired => exact acquired.spends

end Sampler

/-! ## Stages -/

variable [Scalar R] {bench : Bench σ R} {entries : Journal} {context after : Context R}

namespace Baseline

theorem Visited.spends {geometry : Geometry} {channel : Nat}
    (h : Visited bench geometry channel context () entries after) :
    entries.Spends bench.sampling.attempts 1 := by
  cases h with
  | unconnected => exact Nat.zero_le _
  | measured _ acquired => exact acquired.spends
  | pruned _ acquired | failed _ acquired => exact acquired.spends.quiet rfl

theorem Sampled.spends {geometry : Geometry}
    {result : Except (CalibrationError R) (DeviceBaseline R)}
    (h : Sampled bench geometry context result entries after) :
    entries.Spends bench.sampling.attempts context.spec.channels := by
  have hvisits : ∀ {units : List Unit} {after : Context R},
      Chain (Visited bench geometry) (List.range context.spec.channels) context units entries
        after → entries.Spends bench.sampling.attempts context.spec.channels := by
    intro units after hchain
    have hchain := hchain.spends fun _ _ _ _ _ hstep ↦ hstep.spends
    rwa [List.length_range, Nat.mul_one] at hchain
  cases h with
  | measured visits | unmeasured visits => exact hvisits visits

end Baseline

theorem ClassifiedOne.spends {settings : ClassifierSettings R} {deviceMedian : R} {channel : Nat}
    {k k' : Context R × Classification}
    (h : ClassifiedOne settings deviceMedian channel k () entries k') (attempts : Nat) :
    entries.Spends attempts 0 := by
  cases h with
  | unmeasured => exact Journal.spends_nil
  | hot | cold => exact Journal.spends_notices _

theorem Classified.spends {settings : ClassifierSettings R} {verdict : Classification}
    (h : Classified settings context verdict entries after) (attempts : Nat) :
    entries.Spends attempts 0 := by
  cases h with
  | nothing => exact Journal.spends_nil
  | judged _ channels =>
    have hchannels := channels.spends fun _ _ _ _ _ hstep ↦ hstep.spends attempts
    rw [Nat.mul_zero] at hchannels
    exact hchannels.quiet (Journal.requests_notices _)

namespace Threshold

variable {settings : ThresholdSettings R} {probe dac : Nat}

theorem GuessRead.spends {reading : Option (R × R)}
    (h : GuessRead bench settings probe dac context reading entries after) :
    entries.Spends bench.sampling.attempts 1 := by
  cases h with
  | read hlevel => exact hlevel.spends
  | skipped hlevel => exact hlevel.spends.quiet rfl

theorem Fitted.spends {result : Except (CalibrationError R) (Line R)}
    (h : Fitted bench settings probe context result entries) :
    entries.Spends bench.sampling.attempts settings.guessPoints.length := by
  cases h with
  | degenerate guesses | outOfBand guesses | fitted guesses =>
    rw [← Nat.mul_one settings.guessPoints.length]
    exact guesses.spends fun _ _ _ _ _ hstep ↦ hstep.spends

theorem FittedTwice.spends {result : Except (CalibrationError R) (Line R)}
    (h : FittedTwice bench settings probe context result entries) :
    entries.Spends bench.sampling.attempts (2 * settings.guessPoints.length) := by
  cases h with
  | fitted first | degenerate first => exact first.spends.mono (by omega)
  | again first second =>
    rw [Nat.two_mul]
    exact first.spends.append second.spends

theorem CandidateTried.spends {baselineMv goalMv : R} {result : Except (CalibrationError R) R}
    (h : CandidateTried bench settings probe dac baselineMv goalMv context result entries) :
    entries.Spends bench.sampling.attempts 1 := by
  cases h with
  | unread hlevel | rejected hlevel | accepted hlevel => exact hlevel.spends

theorem Verified.spends {baselineMv goalMv : R} {further : Nat}
    {result : Except (CalibrationError R) R}
    (h : Verified bench settings probe dac baselineMv goalMv context further result entries) :
    entries.Spends bench.sampling.attempts (further + 1) := by
  induction h with
  | rejected tried => exact tried.spends.quiet rfl
  | accepted tried => exact tried.spends.mono (by omega)
  | again tried _ ih =>
    rw [Nat.add_comm]
    exact tried.spends.append ih

theorem Solved.spends {result : Except (CalibrationError R) (ThresholdConstants R)}
    (h : Solved bench settings context result entries) :
    entries.Spends bench.sampling.attempts
      (2 * settings.guessPoints.length + bench.sampling.attempts) := by
  -- one attempt is made even where the settings ask for none
  have hattempts : bench.sampling.attempts - 1 + 1 = bench.sampling.attempts := by
    rw [SamplingSettings.attempts]
    omega
  cases h with
  | noBaseline | noProbe => exact Nat.zero_le _
  | unfitted _ fit | unsolvable _ _ fit => exact fit.spends.mono (by omega)
  | unverified _ _ fit _ verify | solved _ _ fit _ verify =>
    have hverify := verify.spends
    rw [hattempts] at hverify
    exact fit.spends.append hverify

theorem RealizedRead.spends {result : Except (CalibrationError R) R}
    (h : RealizedRead bench dac context result entries) :
    entries.Spends bench.sampling.attempts 1 := by
  cases h with
  | noProbe => exact Nat.zero_le _
  | read _ hlevel => exact hlevel.spends

theorem MidEffRead.spends {channel : Nat} {eff : Option R}
    (h : MidEffRead bench dac channel context eff entries after) :
    entries.Spends bench.sampling.attempts 1 := by
  cases h with
  | masked => exact Nat.zero_le _
  | read _ hlevel => exact hlevel.spends
  | failed _ hlevel => exact hlevel.spends.quiet rfl

theorem MidMeasured.spends {result : Except (CalibrationError R) (MidTrim R)}
    (h : MidMeasured bench dac context result entries after) :
    entries.Spends bench.sampling.attempts context.spec.channels := by
  cases h with
  | noData channels | measured channels =>
    have hchannels := channels.spends fun _ _ _ _ _ hstep ↦ hstep.spends
    rwa [List.length_range, Nat.mul_one] at hchannels

theorem MarginChecked.spends {result : Except (CalibrationError R) (MidTrim R)}
    (h : MarginChecked bench settings context result entries after) :
    entries.Spends bench.sampling.attempts (2 * context.spec.channels + 1) := by
  -- two measurements of the channels that are left, and one reading of the first of them
  have hboth : ∀ {first second : Except (CalibrationError R) (MidTrim R)} {dac again : Nat}
      {entries later : Journal} {between after : Context R},
      MidMeasured bench dac context first entries between →
      MidMeasured bench again between second later after →
      (entries ++ .notice .raisingForMargin :: later).Spends bench.sampling.attempts
        (2 * context.spec.channels) := by
    intro first second dac again entries later between after hfirst hsecond
    rw [Nat.two_mul]
    have hlater := hsecond.spends
    rw [hfirst.spec] at hlater
    exact hfirst.spends.append hlater
  cases h with
  | noThreshold | noBaseline => exact Nat.zero_le _
  | unmeasured _ first | kept _ first => exact first.spends.mono (by omega)
  | unmeasuredAgain _ _ first _ second => exact (hboth first second).mono (by omega)
  | unrealized _ _ first _ second probe => exact (hboth first second).append probe.spends
  | raised _ _ _ first _ second probe =>
    exact ((hboth first second).append probe.spends).quiet (Journal.requests_notices _)

end Threshold

namespace Trim

variable {settings : TrimSettings R} {dac channel : Nat} {pass : Pass}

theorem EffRead.spends {key : ChannelKey} {baseline : R} {trim : Nat}
    {result : Except (CalibrationError R) R}
    (h : EffRead bench key dac baseline trim result entries) :
    entries.Spends bench.sampling.attempts 1 := by
  cases h with
  | read hlevel | failed hlevel => exact hlevel.spends

/-- One reading for each high point that is tried. -/
theorem HighSearched.spends {reads : Reads R} {attempts : Nat}
    (hreads : ∀ {trim result entries}, reads trim result entries → entries.Spends attempts 1)
    {tolerance midEff slopeBelow : R} {mid depth : Nat} {points : List Nat}
    {result : Except (CalibrationError R) (Region R)}
    (h : HighSearched reads tolerance mid midEff slopeBelow points depth result entries) :
    entries.Spends attempts points.length := by
  induction h with
  | exhausted => exact Journal.spends_nil
  | failed hread | agreed hread =>
    rw [List.length_cons]
    exact (hreads hread).mono (by omega)
  | next hread _ _ ih =>
    rw [List.length_cons, Nat.add_comm]
    exact (hreads hread).append ih

/-- Number of high points above mid: half the steps there are, rounded up. -/
def highCount (settings : TrimSettings R) : Nat := (settings.high - settings.mid + 1) / 2

omit [Scalar R] in
theorem length_highPoints_le (settings : TrimSettings R) :
    (highPoints settings.mid (min settings.high settings.trimMax)).length ≤
      highCount settings := by
  rw [highPoints, List.length_map, List.length_range, highCount]
  omega

theorem RegionSearched.spends {reads : Reads R} {attempts : Nat}
    (hreads : ∀ {trim result entries}, reads trim result entries → entries.Spends attempts 1)
    {result : Except (CalibrationError R) (Region R)}
    (h : RegionSearched reads settings result entries) :
    entries.Spends attempts (2 + highCount settings) := by
  cases h with
  | lowFailed hlow => exact (hreads hlow).mono (by omega)
  | midFailed hlow hmid | tooNarrow hlow hmid =>
    exact ((hreads hlow).append (hreads hmid)).mono (by omega)
  | searched hlow hmid _ search =>
    have hsearch := (search.spends hreads).mono (length_highPoints_le settings)
    exact ((hreads hlow).append (hreads hmid)).append hsearch

theorem RegionFound.spends {found : Option (Region R)}
    (h : RegionFound bench settings dac channel context found entries after) :
    entries.Spends bench.sampling.attempts (2 + highCount settings) := by
  cases h with
  | masked => exact Nat.zero_le _
  | found _ search => exact search.spends EffRead.spends
  | failed _ search => exact (search.spends EffRead.spends).quiet rfl

theorem SettledAs.spends {deviceEff : R} {found : Option (Region R) × Nat} {settled : Settled R}
    (h : SettledAs bench settings dac pass deviceEff found context settled entries after) :
    entries.Spends bench.sampling.attempts 1 := by
  cases h with
  | absent | leftAtMid => exact Nat.zero_le _
  | tried _ settle =>
    cases settle with
    | unread hlevel | below hlevel => exact hlevel.spends.quiet rfl
    | short hlevel | aligned hlevel => exact hlevel.spends

/-- Each channel has its region found and is settled, in one pass. -/
theorem PassRun.spends {result : Except (CalibrationError R) (PassOutcome R)}
    (h : PassRun bench settings dac pass context result entries after) :
    entries.Spends bench.sampling.attempts (context.spec.channels * (3 + highCount settings)) := by
  have hsearch : ∀ {regions entries after}, Chain (RegionFound bench settings dac)
      (List.range context.spec.channels) (cleared context) regions entries after →
      entries.Spends bench.sampling.attempts
        (context.spec.channels * (2 + highCount settings)) := by
    intro regions entries after hchain
    have hchain := hchain.spends fun _ _ _ _ _ hstep ↦ hstep.spends
    rwa [List.length_range] at hchain
  have hsplit : context.spec.channels * (3 + highCount settings) =
      context.spec.channels * (2 + highCount settings) + context.spec.channels := by
    rw [← Nat.mul_succ]
    congr 1
    omega
  cases h with
  | noRegion search => exact (hsearch search).mono (by omega)
  | done search _ settle =>
    -- as many channels are settled as were searched
    have hsettle := settle.spends fun _ _ _ _ _ hstep ↦ hstep.spends
    rw [List.length_zipIdx, search.length_eq, List.length_range, Nat.mul_one] at hsettle
    rw [hsplit]
    exact (hsearch search).append hsettle

/-- Two passes at most, and one reading between them. -/
theorem Optimized.spends {result : Except (CalibrationError R) Unit}
    (h : Optimized bench settings context result entries after) :
    entries.Spends bench.sampling.attempts
      (2 * (context.spec.channels * (3 + highCount settings)) + 1) := by
  cases h with
  | noThreshold => exact Nat.zero_le _
  | firstFailed _ first => exact first.spends.mono (by omega)
  | once _ first =>
    exact (first.spends.quiet (Journal.requests_notices _)).mono (by omega)
  | unrealized _ first _ probe => exact (first.spends.append probe.spends).mono (by omega)
  | secondFailed _ first _ _ probe second | again _ first _ _ probe second =>
    have hsecond := second.spends
    rw [reentered, first.spec] at hsecond
    exact ((first.spends.append probe.spends).append hsecond).mono (by omega)

end Trim

namespace Calibration

variable {settings : Settings R} {geometry : Geometry} {mode : Mode} {spec : DeviceSpec}

/-- Batches asked for after the baselines at most: two fits and the verification of the candidate,
two measurements at mid trim with one reading, and two passes with one reading. -/
def laterBatches (settings : Settings R) (attempts channels : Nat) : Nat :=
  2 * settings.threshold.guessPoints.length + attempts + 2 * channels + 1 +
    2 * channels * (3 + Trim.highCount settings.trim) + 1

theorem Continued.spends {result : Except (CalibrationError R) Unit}
    (h : Continued bench settings mode context result entries after) :
    entries.Spends bench.sampling.attempts
      (laterBatches settings bench.sampling.attempts context.spec.channels) := by
  have hclassify : ∀ {verdict entries after},
      Classified settings.classifier context verdict entries after →
        entries.Spends bench.sampling.attempts 0 ∧ after.spec = context.spec :=
    fun h ↦ ⟨h.spends _, h.spec⟩
  have hcheck : ∀ {start : Context R} {result entries after},
      Threshold.MarginChecked bench settings.threshold start result entries after →
        start.spec = context.spec →
        entries.Spends bench.sampling.attempts (2 * context.spec.channels + 1) ∧
          after.spec = context.spec := by
    intro start result entries after h hspec
    have hspends := h.spends
    rw [hspec] at hspends
    exact ⟨hspends, h.spec.trans hspec⟩
  rw [laterBatches]
  cases h with
  | baseline _ classify => exact (hclassify classify).1.mono (by omega)
  | unsolved _ classify solve =>
    exact ((hclassify classify).1.append solve.spends).mono (by omega)
  | unchecked _ classify solve check | threshold _ classify solve check =>
    obtain ⟨hclassified, hspec⟩ := hclassify classify
    obtain ⟨hchecked, _⟩ := hcheck check hspec
    exact ((hclassified.append solve.spends).append hchecked).mono (by omega)
  | trim _ classify solve check optimize =>
    obtain ⟨hclassified, hspec⟩ := hclassify classify
    obtain ⟨hchecked, hspec⟩ := hcheck check hspec
    have hoptimized := optimize.spends
    rw [hspec, ← Nat.mul_assoc] at hoptimized
    exact (((hclassified.append solve.spends).append hchecked).append hoptimized).mono (by omega)

theorem Staged.spends {result : Except (CalibrationError R) Unit}
    (h : Staged bench geometry settings mode context result entries after) :
    entries.Spends bench.sampling.attempts (context.spec.channels +
      laterBatches settings bench.sampling.attempts context.spec.channels) := by
  cases h with
  | unmeasured sample => exact sample.spends.mono (by omega)
  | measured sample rest =>
    have hrest := rest.spends
    rw [sample.replay] at hrest
    exact sample.spends.append hrest

/-- A calibration makes no more calls than its batches take. -/
theorem Calibrated.spends {final : Context R}
    (h : Calibrated bench geometry settings mode spec entries final) :
    entries.Spends bench.sampling.attempts (spec.channels +
      laterBatches settings bench.sampling.attempts spec.channels) := by
  cases h with
  | resolved stages => exact stages.spends
  | masked stages => exact stages.spends.quiet rfl

end Calibration

/-! ## A whole run -/

namespace Calibrator

variable (calibrator : Calibrator σ R) (frontEnd : σ)

/-- The calibration a run consists of, registers not yet pushed back. -/
def calibration : Run σ R :=
  Calibration.calibrate calibrator.bench calibrator.geometry calibrator.settings calibrator.mode
    calibrator.spec (.new frontEnd)

/-- Pushing registers back is no call. -/
theorem requests_run : (calibrator.run (.new frontEnd)).2.journal.requests =
    (calibrator.calibration frontEnd).link.journal.requests := by
  rw [run]
  dsimp only
  split
  · rw [pushRegisters_eq]
    dsimp only
    split
    · exact Link.requests_enter _ rfl
    · exact (Link.requests_enter _ rfl).trans (Link.requests_enter _ rfl)
  · rfl

/-- How much a run does, told by the same run with meters. -/
structure WorkIsBounded : Prop where
  /-- But for the meters nothing is different, and every call is counted. -/
  metered : Run.Paired Link.MeteredBy (calibrator.calibration frontEnd)
    (calibrator.meteredRun frontEnd)
  /-- Retries, guess points, verification attempts, channels, high points and passes. -/
  calls :
    let n := calibrator.spec.channels
    let A := calibrator.settings.sampling.maxAttempts
    let G := calibrator.settings.threshold.guessPoints.length
    let H := (calibrator.settings.trim.high - calibrator.settings.trim.mid + 1) / 2
    (calibrator.meteredRun frontEnd).link.frontEnd.calls ≤
      A * (n + 2 * G + A + 2 * n + 1 + 2 * n * (3 + H) + 1)
  passes : (calibrator.meteredRun frontEnd).link.frontEnd.passes ≤ 2
  /-- What is reported is what was counted, as far as a machine word goes. -/
  acquisitions : (calibrator.run (.new frontEnd)).1.acquisitions =
    min (calibrator.meteredRun frontEnd).link.frontEnd.calls maxWord
  /-- No call goes unrecorded. -/
  requests : (calibrator.run (.new frontEnd)).2.journal.requests.length =
    (calibrator.meteredRun frontEnd).link.frontEnd.calls

/-- Whatever the front-end does, a run comes to its end within a bounded number of calls, having
begun two passes at most, and reports the calls it made. -/
theorem work_is_bounded (hvalid : calibrator.settings.validate calibrator.spec = .ok ()) :
    calibrator.WorkIsBounded frontEnd := by
  have hmetered := calibrator.meteredRun_alike frontEnd
  have hlink : (calibrator.calibration frontEnd).link.MeteredBy
      (calibrator.meteredRun frontEnd).link := hmetered.1
  refine ⟨hmetered, ?_, calibrator.passes_meteredRun_le frontEnd, hlink.calls, ?_⟩
  · have hattempts : calibrator.bench.sampling.attempts =
        calibrator.settings.sampling.maxAttempts := by
      have hsome := (Settings.validFor_of_validate hvalid).maxAttempts
      exact Nat.max_eq_left (Nat.one_le_iff_ne_zero.mpr hsome)
    obtain ⟨entries, hjournal, hcourse⟩ := Calibration.exists_course calibrator.bench
      calibrator.geometry calibrator.settings calibrator.mode calibrator.spec (.new frontEnd)
    have hspends := hcourse.spends
    rw [hattempts, Journal.Spends] at hspends
    -- the link was new, so the calls entered are those of the course, and those the meter counts
    have hcalls := hlink.requests
    rw [calibration, hjournal, show (Link.new frontEnd).journal = [] from rfl,
      List.nil_append] at hcalls
    rw [hcalls]
    refine hspends.trans_eq (congrArg (calibrator.settings.sampling.maxAttempts * ·) ?_)
    rw [Calibration.laterBatches, Trim.highCount]
    omega
  · rw [requests_run]
    exact hlink.requests.symm

/-- A calibrator for the exact device that pushes its registers back. -/
def exact : Calibrator Unit ℚ :=
  ⟨Exact.model.frontEnd, Exact.spec, ⟨[]⟩, Exact.settings, .trim, true⟩

/-- The exact device answers at once: 18 calls, of the 93 that its settings allow. -/
theorem work_is_bounded_exact :
    exact.settings.validate exact.spec = .ok () ∧ exact.WorkIsBounded () ∧
      (exact.run (.new ())).1.acquisitions = 18 := by
  have hvalid : exact.settings.validate exact.spec = .ok () := by cbv
  exact ⟨hvalid, exact.work_is_bounded () hvalid, by cbv⟩

end Calibrator

end ThresholdTrim
