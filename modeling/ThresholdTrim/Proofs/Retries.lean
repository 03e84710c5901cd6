import ThresholdTrim.Proofs.Steady
import ThresholdTrim.Proofs.TwoRuns.Stages

/-!
# Retries are transparent

A front-end may fail now and then. As long as it does not fail as often in a row as there are
attempts, every acquisition ends with the batch it would have had at once
(`FrontEnd.AnswersWithin`), and what a stage does depends on that batch alone. Two front-ends that
come to the same batches therefore lead to the same calibration, whenever they fail: their
acquisitions keep two links together, and so does a whole calibration.
-/

namespace ThresholdTrim

variable {σ τ R : Type} {base base' : Journal} {bench : Bench σ R} {bench' : Bench τ R}

/-- Front-ends that come to the same batches make alike benches. -/
theorem Bench.alike_of_recovers {respond : Request → List Nat}
    (hsampling : bench'.sampling = bench.sampling)
    (h : bench.frontEnd.Recovers (bench.sampling.attempts - 1) respond)
    (h' : bench'.frontEnd.Recovers (bench.sampling.attempts - 1) respond) :
    Bench.Alike (Link.Together base base') bench bench' where
  toLasts := Link.lasts_together
  sampling := hsampling
  pause _ _ htogether :=
    ⟨rfl, htogether.extend (Sampler.journal_paused _) (Sampler.journal_paused _) rfl⟩
  acquire request hcount := by
    obtain ⟨hbatch, hwithin⟩ := h request hcount
    have hwithin' := (h' request hcount).2
    refine Sampler.acquire_alike Link.lasts_together hsampling fun link link' htogether ↦ ?_
    obtain ⟨hanswer, entries, hjournal, hessence⟩ :=
      Sampler.retry_eq_ok (hwithin link.frontEnd) hbatch
    obtain ⟨hanswer', entries', hjournal', hessence'⟩ :=
      Sampler.retry_eq_ok (hwithin' link'.frontEnd) hbatch
    exact ⟨hanswer.trans hanswer'.symm,
      htogether.extend hjournal hjournal' (hessence.trans hessence'.symm)⟩

variable [Scalar R]

def Exact.lapsingRun : Run (Unit × Nat) ℚ :=
  Calibration.calibrate Exact.lapsingBench ⟨[]⟩ Exact.settings .trim Exact.spec (.new ((), 0))

namespace Calibration

variable (geometry : Geometry) (settings : Settings R) (mode : Mode) (spec : DeviceSpec)

/-- Lost calls change nothing that is known about a device, as long as fewer are lost in a row than
there are attempts; nor do they change which batches are used, what is masked and what is noted. -/
theorem retries_are_transparent {frontEnd : FrontEnd σ} {respond : Request → List Nat}
    {lapses : Nat → Option Lapse} (hsteady : frontEnd.IsSteady respond)
    (hlapses : ∀ call, ∃ k < settings.sampling.attempts, lapses (call + k) = none)
    (link : Link σ) (link' : Link (σ × Nat)) :
    let run := calibrate ⟨frontEnd, settings.sampling⟩ geometry settings mode spec link
    let run' := calibrate ⟨frontEnd.withLapses lapses, settings.sampling⟩ geometry settings mode
      spec link'
    run'.context = run.context ∧ run.link.Together link.journal link'.journal run'.link := by
  have halike : Bench.Alike (Link.Together link.journal link'.journal)
      (⟨frontEnd, settings.sampling⟩ : Bench σ R) ⟨frontEnd.withLapses lapses, settings.sampling⟩ :=
    Bench.alike_of_recovers rfl (hsteady.recovers _) (hsteady.recovers_withLapses hlapses)
  obtain ⟨hlinks, hcontexts⟩ :=
    calibrate_alike geometry settings mode spec halike (link.together_refl link')
  exact ⟨hcontexts.symm, hlinks⟩

/-- With three attempts, two calls out of three may be lost. -/
theorem retries_are_transparent_exact :
    (∀ call, ∃ k < Exact.settings.sampling.attempts, Exact.lapses (call + k) = none) ∧
      Exact.lapsingRun.context = Exact.run.context ∧
      Exact.lapsingRun.link.calls = 3 * Exact.run.link.calls - 2 := by
  have hsteady : Exact.model.frontEnd.IsSteady Exact.model.respond := LinearModel.isSteady rfl
  have hboth := retries_are_transparent ⟨[]⟩ Exact.settings .trim Exact.spec hsteady
    Exact.exists_kept (.new ()) (.new ((), 0))
  exact ⟨Exact.exists_kept, hboth.1, by cbv⟩

end Calibration

end ThresholdTrim
