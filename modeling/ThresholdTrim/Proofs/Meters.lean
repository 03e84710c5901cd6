import ThresholdTrim.Proofs.TwoRuns.Stages

/-!
# Front-ends with meters

How often a front-end is called can be told from the state of the front-end itself, when that keeps
count. Any front-end can be made to (`FrontEnd.metered`); a second meter counts passes over the
trims, and for that the passes of a calibration are replaced by passes that are counted
(`Trim.countedPass`). Apart from the meters the run is the same (`Calibrator.meteredRun_alike`).

No stage reads a meter. So a stage that contains no pass leaves the meter of passes where it is
(`Stage.begins_of_alike`), and what is left to look at are the two places where a pass is made.
-/

namespace ThresholdTrim

variable {σ R : Type}

/-! ## Meters -/

/-- A state of a front-end with two meters: calls that were made, and passes that were begun. -/
structure Metered (σ : Type) where
  frontEnd : σ
  calls : Nat
  passes : Nat

/-- The same front-end; every call is counted, whatever the answer. -/
def FrontEnd.metered (frontEnd : FrontEnd σ) : FrontEnd (Metered σ) where
  acquire request state :=
    let (answer, next) := frontEnd.acquire request state.frontEnd
    (answer, { state with frontEnd := next, calls := state.calls + 1 })
  write device registers state :=
    let (answer, next) := frontEnd.write device registers state.frontEnd
    (answer, { state with frontEnd := next })

def Bench.metered (bench : Bench σ R) : Bench (Metered σ) R :=
  ⟨bench.frontEnd.metered, bench.sampling⟩

/-- Counts one pass. -/
def Link.countPass (link : Link (Metered σ)) : Link (Metered σ) :=
  { link with frontEnd := { link.frontEnd with passes := link.frontEnd.passes + 1 } }

/-- A link and the same link with meters. The calls that are reported are the calls that are
counted, up to the largest machine word. -/
structure Link.MeteredBy (link : Link σ) (metered : Link (Metered σ)) : Prop where
  frontEnd : metered.frontEnd.frontEnd = link.frontEnd
  clock : metered.clock = link.clock
  log : metered.log = link.log
  requests : metered.frontEnd.calls = link.journal.requests.length
  calls : link.calls = min metered.frontEnd.calls maxWord
  reported : metered.calls = link.calls

theorem Link.requests_enter (link : Link σ) {entry : Entry}
    (hentry : Journal.requests [entry] = []) :
    (link.enter entry).journal.requests = link.journal.requests := by
  rw [journal_enter, Journal.requests_append, hentry, List.append_nil]

theorem Link.length_requests_called (bench : Bench σ R) (request : Request) (link : Link σ) :
    (Sampler.called bench request link).journal.requests.length =
      link.journal.requests.length + 1 := by
  rw [Sampler.journal_called, Journal.requests_append, List.length_append]
  rfl

namespace Link.MeteredBy

variable {link : Link σ} {metered : Link (Metered σ)}

/-- Both enter something that is no call. -/
theorem enter (h : link.MeteredBy metered) {entry : Entry}
    (hentry : Journal.requests [entry] = []) :
    (link.enter entry).MeteredBy (metered.enter entry) :=
  ⟨h.frontEnd, h.clock, congrArg (entry :: ·) h.log,
    h.requests.trans (congrArg List.length (link.requests_enter hentry)).symm, h.calls, h.reported⟩

theorem lasts : Link.Lasts (Link.MeteredBy : Link σ → Link (Metered σ) → Prop) where
  notice _ h := h.enter rfl
  masked h := h.enter rfl

theorem pause_alike (bench : Bench σ R) :
    Sampler.Alike Link.MeteredBy (Sampler.pause bench) (Sampler.pause bench.metered) := by
  intro link metered h
  have hpause : Journal.requests [.pause] = [] := rfl
  have hentered := h.enter hpause
  refine ⟨rfl, hentered.frontEnd, ?_, hentered.log, hentered.requests, hentered.calls,
    hentered.reported⟩
  exact congrArg (·.sleep bench.sampling.retryDelayMs) h.clock

theorem call_alike (bench : Bench σ R) (request : Request) :
    Sampler.Alike Link.MeteredBy (Sampler.call bench request)
      (Sampler.call bench.metered request) := by
  intro link metered h
  have hanswer : (bench.metered.frontEnd.acquire request metered.frontEnd).1 =
      (bench.frontEnd.acquire request link.frontEnd).1 := by
    rw [← h.frontEnd]
    rfl
  refine ⟨congrArg Except.ok hanswer.symm, ?_, h.clock, ?_, ?_, ?_, ?_⟩
  · exact congrArg (fun state ↦ (bench.frontEnd.acquire request state).2) h.frontEnd
  · change Entry.reading request _ :: metered.log = .reading request _ :: link.log
    rw [h.frontEnd, h.log]
  · exact (congrArg (· + 1) h.requests).trans (link.length_requests_called bench request).symm
  · change min (link.calls + 1) maxWord = min (metered.frontEnd.calls + 1) maxWord
    -- one more call, then the limit; or the limit, one more call, and the limit again
    rw [h.calls]
    omega
  · exact congrArg (fun calls ↦ min (calls + 1) maxWord) h.reported

theorem bench_alike (bench : Bench σ R) : Bench.Alike Link.MeteredBy bench bench.metered :=
  Bench.alike_of_call lasts rfl (pause_alike bench) (call_alike bench)

end Link.MeteredBy

/-! ## Passes that are begun -/

/-- The meter of passes stands at `k`, on both sides of a run with itself. -/
def Link.PassesAre (k : Nat) (link link' : Link (Metered σ)) : Prop :=
  link.frontEnd.passes = k ∧ link' = link

theorem Link.kept_passes (bench : Bench σ R) (k : Nat) :
    Link.Kept (fun link ↦ link.frontEnd.passes = k) bench.metered where
  notice _ h := h
  masked h := h
  pause h := h
  call h := h
  write h := h

theorem Bench.passes_alike (bench : Bench σ R) (k : Nat) :
    Bench.Alike (Link.PassesAre k) bench.metered bench.metered :=
  (Link.kept_passes bench k).alike

namespace Stage

variable {α β : Type} {p : Stage (Metered σ) R α} {next : α → Stage (Metered σ) R β} {m n : Nat}

/-- At most `n` passes are begun. -/
def Begins (n : Nat) (p : Stage (Metered σ) R α) : Prop :=
  ∀ run, (p.run run).2.link.frontEnd.passes ≤ run.link.frontEnd.passes + n

/-- A stage that goes its way with any reading of the meter begins none. -/
theorem begins_of_alike (h : ∀ k, Stage.Alike (Link.PassesAre k) p p) : Begins n p := by
  intro run
  obtain ⟨_, ⟨hpasses, _⟩, _⟩ := h run.link.frontEnd.passes run run ⟨⟨rfl, rfl⟩, rfl⟩
  exact Nat.le_trans (Nat.le_of_eq hpasses) (Nat.le_add_right _ n)

theorem Begins.bind (h : Begins m p) (hnext : ∀ a, Begins n (next a)) :
    Begins (n + m) (p >>= next) := by
  intro run
  have hfirst := h run
  rw [run_bind]
  generalize p.run run = first at hfirst ⊢
  obtain ⟨answer, between⟩ := first
  dsimp only at hfirst
  cases answer with
  | error => exact Nat.le_trans hfirst (by omega)
  | ok a => exact Nat.le_trans (hnext a between) (by omega)

theorem begins_after (h : ∀ k, Stage.Alike (Link.PassesAre k) p p)
    (hnext : ∀ a, Begins n (next a)) : Begins n (p >>= next) :=
  Begins.bind (begins_of_alike h : Begins 0 p) hnext

theorem Begins.ite {P : Prop} [Decidable P] {q : Stage (Metered σ) R α} (hp : Begins n p)
    (hq : Begins n q) : Begins n (if P then p else q) := by
  split
  · exact hp
  · exact hq

end Stage

/-! ## Runs with meters -/

variable [Scalar R]

/-- A pass that is counted when it is begun. -/
def Trim.countedPass (bench : Bench σ R) (settings : TrimSettings R) (dac : Nat) (pass : Pass) :
    Stage (Metered σ) R (PassOutcome R) := do
  modify fun run ↦ { run with link := run.link.countPass }
  runPass bench.metered settings dac pass

/-- The run of a calibrator with its meters at zero in the beginning. -/
def Calibrator.meteredRun (calibrator : Calibrator σ R) (frontEnd : σ) :
    Run (Metered σ) R :=
  Calibration.calibrateWith (Trim.countedPass calibrator.bench calibrator.settings.trim)
    calibrator.bench.metered calibrator.geometry calibrator.settings calibrator.mode
    calibrator.spec (.new ⟨frontEnd, 0, 0⟩)

theorem Link.MeteredBy.pass_alike (bench : Bench σ R) (settings : TrimSettings R) (dac : Nat)
    (pass : Trim.Pass) :
    Stage.Alike Link.MeteredBy (Trim.runPass bench settings dac pass)
      (Trim.countedPass bench settings dac pass) := by
  intro run metered h
  rw [Trim.countedPass, run_bind]
  refine Trim.runPass_alike (bench_alike bench) dac pass run _ ⟨?_, h.2⟩
  exact ⟨h.1.frontEnd, h.1.clock, h.1.log, h.1.requests, h.1.calls, h.1.reported⟩

/-- With meters, a run is the same run. -/
theorem Calibrator.meteredRun_alike (calibrator : Calibrator σ R) (frontEnd : σ) :
    Run.Paired Link.MeteredBy
      (Calibration.calibrate calibrator.bench calibrator.geometry calibrator.settings
        calibrator.mode calibrator.spec (.new frontEnd)) (calibrator.meteredRun frontEnd) := by
  rw [Calibration.calibrate_eq]
  refine Calibration.calibrateWith_alike _ _ _ _ (Link.MeteredBy.bench_alike _)
    (Link.MeteredBy.pass_alike _ _) ?_
  exact ⟨rfl, rfl, rfl, rfl, rfl, rfl⟩

namespace Trim

variable (bench : Bench σ R) (settings : TrimSettings R)

theorem countedPass_begins (dac : Nat) (pass : Pass) :
    (countedPass bench settings dac pass).Begins 1 := by
  have htick : Stage.Begins 1 (modify fun run ↦ { run with link := run.link.countPass } :
      Stage (Metered σ) R Unit) := fun _ ↦ Nat.le_refl _
  refine htick.bind fun _ ↦ Stage.begins_of_alike fun k ↦ ?_
  exact runPass_alike (bench.passes_alike k) dac pass

/-- Between the passes and after them none is begun. -/
theorem optimizeWith_begins :
    (optimizeWith (countedPass bench settings) bench.metered settings).Begins 2 := by
  refine Stage.begins_after (fun _ ↦ Stage.alike_context) fun start ↦ ?_
  refine Stage.begins_after (fun _ ↦ Stage.alike_need _) fun constants ↦ ?_
  refine (countedPass_begins bench settings constants.dac .first).bind fun outcome ↦ ?_
  refine Stage.begins_after (fun _ ↦ Stage.alike_context) fun context ↦ .ite ?_ ?_
  · refine Stage.begins_after (fun k ↦ ?_) fun realized ↦ ?_
    · exact Threshold.measureRealized_alike (bench.passes_alike k) _
    refine Stage.begins_after (fun _ ↦ Stage.alike_update _) fun _ ↦ ?_
    exact (countedPass_begins bench settings _ .second).bind fun _ ↦
      Stage.begins_of_alike fun _ ↦ .pure _
  · refine Stage.begins_of_alike fun k ↦ ?_
    exact .ite (Stage.alike_note (bench.passes_alike k).toLasts rfl) (.pure _)

end Trim

namespace Calibration

variable (bench : Bench σ R) (geometry : Geometry) (settings : Settings R) (mode : Mode)

theorem stagesWith_begins :
    (stagesWith (Trim.countedPass bench settings.trim) bench.metered geometry settings
      mode).Begins 2 := by
  have hnone : Stage.Begins 2 (pure () : Stage (Metered σ) R Unit) :=
    Stage.begins_of_alike fun _ ↦ .pure _
  refine Stage.begins_after (fun k ↦ ?_) fun _ ↦ ?_
  · exact Baseline.sampleAll_alike (bench.passes_alike k)
  refine Stage.begins_after (fun k ↦ ?_) fun _ ↦ .ite hnone ?_
  · exact classify_alike (bench.passes_alike k).toLasts _
  refine Stage.begins_after (fun k ↦ ?_) fun constants ↦ ?_
  · exact Threshold.solve_alike (bench.passes_alike k)
  refine Stage.begins_after (fun _ ↦ Stage.alike_update _) fun _ ↦ ?_
  refine Stage.begins_after (fun k ↦ ?_) fun _ ↦ .ite hnone ?_
  · exact Threshold.recheckMargin_alike (bench.passes_alike k)
  exact Trim.optimizeWith_begins bench settings.trim

end Calibration

/-- However a run ends, it has begun two passes at most. -/
theorem Calibrator.passes_meteredRun_le (calibrator : Calibrator σ R) (frontEnd : σ) :
    (calibrator.meteredRun frontEnd).link.frontEnd.passes ≤ 2 := by
  have hstages := Calibration.stagesWith_begins calibrator.bench calibrator.geometry
    calibrator.settings (calibrator.mode.onBoard calibrator.spec.flavor)
    ⟨.new ⟨frontEnd, 0, 0⟩, .new calibrator.spec calibrator.settings.threshold.thdacMax
      calibrator.settings.trim.mid⟩
  rw [meteredRun, Calibration.calibrateWith]
  dsimp only at hstages ⊢
  generalize (Calibration.stagesWith (Trim.countedPass calibrator.bench calibrator.settings.trim)
    calibrator.bench.metered calibrator.geometry calibrator.settings
    (calibrator.mode.onBoard calibrator.spec.flavor)).run _ = last at hstages ⊢
  obtain ⟨answer, run⟩ := last
  cases answer with
  | ok | error => exact hstages

end ThresholdTrim
