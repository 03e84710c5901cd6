import ThresholdTrim.Calibration
import ThresholdTrim.Proofs.Course.Baseline
import ThresholdTrim.Proofs.Course.Trim

/-!
# Courses of a calibration

The stages in order, as far as the mode asks for, and what becomes of the device in the end. Every
run of `Calibration.calibrate` takes one of these courses, whatever the front-end does; statements
about all runs are statements about all courses.
-/

namespace ThresholdTrim.Calibration

open Scalar

variable {σ R : Type} [Scalar R] {bench : Bench σ R} {geometry : Geometry} {settings : Settings R}
  {mode : Mode} {spec : DeviceSpec} {context : Context R}

/-- The stages after baseline sampling. -/
inductive Continued (bench : Bench σ R) (settings : Settings R) (mode : Mode)
    (context : Context R) : Except (CalibrationError R) Unit → Journal → Context R → Prop
  | baseline {verdict : Classification} {entries : Journal} {after : Context R}
    (hmode : mode = .baseline)
    (classify : Classified settings.classifier context verdict entries after) :
    Continued bench settings mode context (.ok ()) entries after
  | unsolved {verdict : Classification} {cause : CalibrationError R} {entries later : Journal}
    {after : Context R} (hmode : mode ≠ .baseline)
    (classify : Classified settings.classifier context verdict entries after)
    (solve : Threshold.Solved bench settings.threshold after (.error cause) later) :
    Continued bench settings mode context (.error cause) (entries ++ later) after
  | unchecked {verdict : Classification} {constants : ThresholdConstants R}
    {cause : CalibrationError R} {entries later last : Journal} {between after : Context R}
    (hmode : mode ≠ .baseline)
    (classify : Classified settings.classifier context verdict entries between)
    (solve : Threshold.Solved bench settings.threshold between (.ok constants) later)
    (check : Threshold.MarginChecked bench settings.threshold
      { between with threshold := some constants } (.error cause) last after) :
    Continued bench settings mode context (.error cause) (entries ++ later ++ last) after
  | threshold {verdict : Classification} {constants : ThresholdConstants R} {mid : MidTrim R}
    {entries later last : Journal} {between after : Context R} (hmode : mode = .threshold)
    (classify : Classified settings.classifier context verdict entries between)
    (solve : Threshold.Solved bench settings.threshold between (.ok constants) later)
    (check : Threshold.MarginChecked bench settings.threshold
      { between with threshold := some constants } (.ok mid) last after) :
    Continued bench settings mode context (.ok ()) (entries ++ later ++ last) after
  | trim {verdict : Classification} {constants : ThresholdConstants R} {mid : MidTrim R}
    {result : Except (CalibrationError R) Unit} {entries later last trims : Journal}
    {between checked after : Context R} (hmode : mode = .trim)
    (classify : Classified settings.classifier context verdict entries between)
    (solve : Threshold.Solved bench settings.threshold between (.ok constants) later)
    (check : Threshold.MarginChecked bench settings.threshold
      { between with threshold := some constants } (.ok mid) last checked)
    (optimize : Trim.Optimized bench settings.trim checked result trims after) :
    Continued bench settings mode context result (entries ++ later ++ last ++ trims) after

/-- The stages of a mode, up to the first that fails. -/
inductive Staged (bench : Bench σ R) (geometry : Geometry) (settings : Settings R) (mode : Mode)
    (context : Context R) : Except (CalibrationError R) Unit → Journal → Context R → Prop
  | unmeasured {cause : CalibrationError R} {entries : Journal} {after : Context R}
    (sample : Baseline.Sampled bench geometry context (.error cause) entries after) :
    Staged bench geometry settings mode context (.error cause) entries after
  | measured {device : DeviceBaseline R} {result : Except (CalibrationError R) Unit}
    {entries later : Journal} {between after : Context R}
    (sample : Baseline.Sampled bench geometry context (.ok device) entries between)
    (rest : Continued bench settings mode between result later after) :
    Staged bench geometry settings mode context result (entries ++ later) after

theorem stages_ensures (context : Context R) :
    (stages bench geometry settings mode).Ensures context
      (Staged bench geometry settings mode context) := by
  refine Stage.ensures_bind ((Baseline.sampleAll_ensures context).mono ?_)
  rintro (cause | device) entries sampled hsample
  · exact .unmeasured hsample
  refine Stage.ensures_bind ((classify_yields _ sampled).mono ?_)
  rintro _ later between ⟨verdict, rfl, hclassify⟩
  dsimp only
  split
  · rename_i hmode
    refine Stage.ensures_pure (.measured hsample ?_)
    rw [List.append_nil]
    exact .baseline hmode hclassify
  rename_i hmode
  refine Stage.ensures_bind ((Threshold.solve_ensures between).mono ?_)
  rintro (cause | constants) solved _ ⟨rfl, hsolve⟩
  · exact .measured hsample (.unsolved hmode hclassify hsolve)
  refine Stage.ensures_bind (Stage.ensures_update ?_)
  refine Stage.ensures_bind ((Threshold.recheckMargin_ensures _).mono ?_)
  rintro (cause | mid) last checked hcheck
  · refine .measured hsample ?_
    simpa using Continued.unchecked hmode hclassify hsolve hcheck
  dsimp only
  split
  · rename_i hthreshold
    refine Stage.ensures_pure (.measured hsample ?_)
    simpa using Continued.threshold hthreshold hclassify hsolve hcheck
  · rename_i hthreshold
    refine (Trim.optimize_ensures checked).mono ?_
    intro result trims after hoptimize
    have htrim : mode = .trim := by
      cases mode with
      | baseline => exact absurd rfl hmode
      | threshold => exact absurd rfl hthreshold
      | trim => rfl
    refine .measured hsample ?_
    simpa using Continued.trim htrim hclassify hsolve hcheck hoptimize

/-- The context a calibration starts from. -/
def start (settings : Settings R) (spec : DeviceSpec) : Context R :=
  .new spec settings.threshold.thdacMax settings.trim.mid

/-- What a calibration enters in the journal, and the context it ends with. -/
inductive Calibrated (bench : Bench σ R) (geometry : Geometry) (settings : Settings R)
    (mode : Mode) (spec : DeviceSpec) : Journal → Context R → Prop
  | resolved {entries : Journal} {after : Context R}
    (stages : Staged bench geometry settings (mode.onBoard spec.flavor) (start settings spec)
      (.ok ()) entries after) :
    Calibrated bench geometry settings mode spec entries { after with status := .resolved }
  | masked {cause : CalibrationError R} {entries : Journal} {after : Context R}
    (stages : Staged bench geometry settings (mode.onBoard spec.flavor) (start settings spec)
      (.error cause) entries after) :
    Calibrated bench geometry settings mode spec (entries ++ [.notice .deviceMasked])
      (after.fail cause)

/-- Every calibration takes a course. -/
theorem exists_course (bench : Bench σ R) (geometry : Geometry) (settings : Settings R)
    (mode : Mode) (spec : DeviceSpec) (link : Link σ) :
    ∃ entries, (calibrate bench geometry settings mode spec link).link.journal =
        link.journal ++ entries ∧
      Calibrated bench geometry settings mode spec entries
        (calibrate bench geometry settings mode spec link).context := by
  have hstages : (stages bench geometry settings (mode.onBoard spec.flavor)).Ensures
      (start settings spec) _ := stages_ensures _
  obtain ⟨entries, hjournal, hstaged⟩ := hstages link
  rw [start] at hjournal hstaged
  unfold calibrate
  dsimp only
  rcases hrun : (stages bench geometry settings (mode.onBoard spec.flavor)).run
    ⟨link, .new spec settings.threshold.thdacMax settings.trim.mid⟩ with ⟨cause | _, run⟩
  · rw [hrun] at hjournal hstaged
    refine ⟨entries ++ [.notice .deviceMasked], ?_, .masked hstaged⟩
    rw [← List.append_assoc, ← hjournal]
    exact run.link.journal_enter _
  · rw [hrun] at hjournal hstaged
    exact ⟨entries, hjournal, .resolved hstaged⟩

/-! ## What a calibration keeps -/

/-- Values a run may program the threshold register with, guess points apart: the inverted fit and
the two raises. -/
inductive RunDac (settings : ThresholdSettings R) : Nat → Prop
  | solved {line : Line R} {target : R} {dac : Nat}
    (hdac : Threshold.invertTarget line target settings.thdacMax = .ok dac) : RunDac settings dac
  | margin (constants : ThresholdConstants R) (device : DeviceBaseline R) :
    RunDac settings (Threshold.raisedForMargin constants device settings.thdacMax)
  | bumps (constants : ThresholdConstants R) (bumps : List (Nat × R)) :
    RunDac settings (Trim.raisedForBumps constants bumps settings.thdacMax)

/-- A remit for the stages after baseline sampling. -/
structure Permits (remit : Remit) (settings : Settings R) (mode : Mode) : Prop where
  guess : ∀ dac ∈ settings.threshold.guessPoints, remit.Allows (.threshold dac settings.trim.mid)
  mid : ∀ dac, RunDac settings.threshold dac → remit.Allows (.threshold dac settings.trim.mid)
  trim : mode = .trim → ∀ dac trim, RunDac settings.threshold dac →
    Trim.PassTrim settings.trim trim → remit.Allows (.threshold dac trim)
  hot : remit.Masks .hot
  noData : remit.Masks .noData
  belowBaseline : remit.Masks .belowBaseline

variable {remit : Remit} {entries : Journal} {after : Context R}

theorem permits_any : Permits Remit.any settings mode where
  guess _ _ _ _ := trivial
  mid _ _ _ _ := trivial
  trim _ _ _ _ _ _ _ := trivial
  hot _ := trivial
  noData _ := trivial
  belowBaseline _ := trivial

theorem solved_dac {constants : ThresholdConstants R}
    (h : Threshold.Solved bench settings.threshold context (.ok constants) entries) :
    RunDac settings.threshold constants.dac := by
  cases h with
  | solved _ _ _ hdac => exact .solved hdac

theorem checked_dac {constants : ThresholdConstants R} {mid : MidTrim R}
    (h : Threshold.MarginChecked bench settings.threshold context (.ok mid) entries after)
    (hconstants : context.threshold = some constants)
    (hdac : RunDac settings.threshold constants.dac) {checked : ThresholdConstants R}
    (hchecked : after.threshold = some checked) : RunDac settings.threshold checked.dac := by
  cases h with
  | kept _ first =>
    rw [first.replay] at hchecked
    obtain rfl := Option.some.inj (hconstants.symm.trans hchecked)
    exact hdac
  | raised _ _ hraised =>
    obtain rfl := Option.some.inj hchecked
    exact hraised ▸ .margin _ _

/-- Solving, then checking the margin, in the classified context. -/
theorem solved_follows {result : Except (CalibrationError R) (ThresholdConstants R)}
    {verdict : Classification} {later : Journal}
    (hclassify : Classified settings.classifier context verdict entries after)
    (hsolve : Threshold.Solved bench settings.threshold after result later)
    (hpermits : Permits remit settings mode) (hfits : context.Fits)
    (htrimMid : context.trimMid = settings.trim.mid) :
    context.Follows remit (entries ++ later) after := by
  have hclassified := hclassify.follows hpermits.hot
  have hmid : after.trimMid = settings.trim.mid := hclassified.trimMid.trans htrimMid
  refine hclassified.trans (hsolve.follows (hclassified.fits hfits) ?_ ?_)
  · rw [hmid]
    exact hpermits.guess
  · intro line target dac hdac
    rw [hmid]
    exact hpermits.mid dac (.solved hdac)

theorem checked_follows {constants : ThresholdConstants R}
    {result : Except (CalibrationError R) (MidTrim R)}
    (hcheck : Threshold.MarginChecked bench settings.threshold
      { context with threshold := some constants } result entries after)
    (hdac : RunDac settings.threshold constants.dac) (hpermits : Permits remit settings mode)
    (hfits : context.Fits) (htrimMid : context.trimMid = settings.trim.mid) :
    context.Follows remit entries after := by
  have hstart : context.Follows remit [] { context with threshold := some constants } :=
    ⟨trivial, rfl, rfl, rfl, rfl⟩
  refine hstart.trans (hcheck.follows hfits (fun kept hkept ↦ ?_) (fun constants device ↦ ?_)
    hpermits.noData)
  · obtain rfl := Option.some.inj hkept
    exact htrimMid ▸ hpermits.mid _ hdac
  · exact htrimMid ▸ hpermits.mid _ (.margin constants device)

/-- After baseline sampling, only channels in use are read, at register values of the run. -/
theorem Continued.follows {result : Except (CalibrationError R) Unit}
    (h : Continued bench settings mode context result entries after)
    (hpermits : Permits remit settings mode) (hfits : context.Fits)
    (hthdacMax : context.thdacMax = settings.threshold.thdacMax)
    (htrimMid : context.trimMid = settings.trim.mid) : context.Follows remit entries after := by
  cases h with
  | baseline _ classify => exact classify.follows hpermits.hot
  | unsolved _ classify solve => exact solved_follows classify solve hpermits hfits htrimMid
  | unchecked _ classify solve check | threshold _ classify solve check =>
    have hsolved := solved_follows classify solve hpermits hfits htrimMid
    exact hsolved.trans (checked_follows check (solved_dac solve) hpermits (hsolved.fits hfits)
      (hsolved.trimMid.trans htrimMid))
  | trim hmode classify solve check optimize =>
    have hsolved := solved_follows classify solve hpermits hfits htrimMid
    have hchecked := hsolved.trans (checked_follows check (solved_dac solve) hpermits
      (hsolved.fits hfits) (hsolved.trimMid.trans htrimMid))
    refine hchecked.trans (optimize.follows (hchecked.fits hfits) ?_ ?_ hpermits.noData
      hpermits.belowBaseline)
    · -- the first pass keeps the register of the margin check
      intro constants hconstants trim htrim
      exact hpermits.trim hmode _ _ (checked_dac check rfl (solved_dac solve) hconstants) htrim
    · intro constants bumps trim htrim
      rw [hchecked.thdacMax, hthdacMax]
      rcases htrim with rfl | htrim
      · rw [hchecked.trimMid, htrimMid]
        exact hpermits.mid _ (.bumps constants bumps)
      · exact hpermits.trim hmode _ _ (.bumps constants bumps) htrim

/-- The stages after baseline sampling leave the records of baseline sampling alone. -/
theorem Continued.baselines {result : Except (CalibrationError R) Unit}
    (h : Continued bench settings mode context result entries after) :
    after.baselines = context.baselines := by
  have hclassify : ∀ {verdict entries after},
      Classified settings.classifier context verdict entries after →
        after.baselines = context.baselines := by
    intro verdict entries after h
    rw [h.replay]
    rfl
  have hcheck : ∀ {start : Context R} {result entries after},
      Threshold.MarginChecked bench settings.threshold start result entries after →
        after.baselines = start.baselines := by
    intro start result entries after h
    rw [h.replay]
    rfl
  cases h with
  | baseline _ classify | unsolved _ classify => exact hclassify classify
  | unchecked _ classify _ check | threshold _ classify _ check =>
    have hbetween := hclassify classify
    exact (hcheck check).trans hbetween
  | trim _ classify _ check optimize =>
    have hbetween := hclassify classify
    rw [optimize.replay]
    exact (hcheck check).trans hbetween

theorem fits_start : (start settings spec).Fits := List.length_replicate

theorem isMasked_start (channel : Nat) : (start settings spec).mask.isMasked channel = false := by
  rw [ChannelMask.isMasked, start, Context.new, ChannelMask.reason_new]
  rfl

theorem trim_start (channel : Nat) : (start settings spec).trim channel = none := by
  rw [Context.trim, start, Context.new, List.getElem?_replicate]
  split <;> rfl

/-- All that holds of a run from its first entry on. -/
theorem Staged.follows {result : Except (CalibrationError R) Unit}
    (h : Staged bench geometry settings mode (start settings spec) result entries after)
    (hbaseline : Baseline.Permits remit geometry spec.key)
    (hpermits : Permits remit settings mode) :
    (start settings spec).Follows remit entries after := by
  cases h with
  | unmeasured sample => exact sample.follows hbaseline fun channel _ ↦ isMasked_start channel
  | measured sample rest =>
    have hsample := sample.follows hbaseline fun channel _ ↦ isMasked_start channel
    exact hsample.trans
      (rest.follows hpermits (hsample.fits fits_start) hsample.thdacMax hsample.trimMid)

/-- What holds of a run whatever it is allowed to do. -/
theorem Staged.follows_any {result : Except (CalibrationError R) Unit}
    (h : Staged bench geometry settings mode (start settings spec) result entries after) :
    (start settings spec).Follows .any entries after :=
  h.follows Baseline.permits_any permits_any

/-- A calibration reports on the device it was given. -/
theorem Calibrated.spec_eq {final : Context R}
    (h : Calibrated bench geometry settings mode spec entries final) : final.spec = spec := by
  cases h with
  | resolved stages | masked stages => exact stages.follows_any.spec

end ThresholdTrim.Calibration
