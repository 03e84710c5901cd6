import ThresholdTrim.Proofs.BelowBaseline

/-!
# Trims are done in one pass or two

A first pass may leave channels in use that lie below their baselines, each with a request for what
it is short of. When one of them can be helped, and the level at a raised register can be read, the
register is raised and a second pass is made, and that is the end of it. Otherwise the register
stays.

A request is what a threshold below its baseline is short of, so it is positive, and the register is
raised by the largest of them over the slope and one step on top. That it really goes up is then a
matter of bounding (`raised_raisedForBumps`).
-/

namespace ThresholdTrim

open Scalar Sampler

variable {σ R : Type} [Scalar R]

namespace Trim

/-! ## The raised register -/

theorem raised_raisedForBumps [BumpScalar R] {constants : ThresholdConstants R}
    {bumps : List (Nat × R)} {thdacMax : Nat} (hslope : lt (ofCount 0) constants.slope = true)
    (hdac : constants.dac ≤ thdacMax) (htop : thdacMax ≤ maxRegister)
    (hpos : ∀ bump ∈ bumps.map (·.2), lt (ofCount 0) bump = true) :
    Raised constants.dac (raisedForBumps constants bumps thdacMax) thdacMax := by
  have hold : constants.dac ≤ maxRegister := Nat.le_trans hdac htop
  have hone : (1 : Nat) ≤ maxRegister := by decide
  have hzero : le (ofCount 0 : R) (ofCount 0) = true :=
    RegisterScalar.ofCount_le le_rfl (Nat.zero_le _)
  have hlargest : lt ((bumps.map (·.2)).foldl larger (ofCount 0)) (ofCount 0) = false :=
    RaisingScalar.not_lt_of_le
      (le_foldl_larger hzero fun bump hmem ↦ BumpScalar.le_self_of_lt (hpos bump hmem)).1
  have hraise := BumpScalar.not_lt_ceil (BumpScalar.not_lt_div hlargest hslope)
  have hsum := RaisingScalar.not_lt_add (m := constants.dac) (n := 0) hold (not_lt_ofCount hold)
    hraise
  refine raised_toNat_smaller hdac htop ?_ fun hnext ↦ ?_
  · exact RaisingScalar.not_lt_add hold hsum
      (RaisingScalar.not_lt_mono zero_le_one hone (not_lt_ofCount hone))
  · exact RaisingScalar.not_lt_add hnext hsum (not_lt_ofCount hone)

variable {bench : Bench σ R} {settings : TrimSettings R} {context after : Context R}
  {constants : ThresholdConstants R} {dac : Nat} {pass : Pass} {outcome : PassOutcome R}
  {entries : Journal} {link : Link σ}

/-- Every request is for more. -/
theorem PassRun.bumps_pos [BumpScalar R]
    (h : PassRun bench settings dac pass context (.ok outcome) entries after) :
    ∀ bump ∈ outcome.bumps.map (·.2), lt (ofCount 0) bump = true := by
  intro _ hmem
  obtain ⟨⟨channel, bump⟩, hbump, rfl⟩ := List.mem_map.mp hmem
  cases h with
  | done search hmedian settle =>
    obtain ⟨settled, hsettled, hshort⟩ := mem_bumps_iff.mp hbump
    obtain ⟨_, _, _, _, _, _, _, _, _, hstep, _⟩ := exists_settled settle hsettled
    cases hstep with
    | absent | leftAtMid => cases hshort
    | tried _ htried =>
      cases htried with
      | unread | below | aligned => cases hshort
      | short _ _ hnegative =>
        obtain rfl := Option.some.inj hshort
        exact BumpScalar.lt_neg hnegative

/-! ## Calling for another pass -/

/-- Some channel asks for no more than half of what its trim can move it by. -/
def Fixable (outcome : PassOutcome R) (context : Context R) : Prop :=
  ∃ channel bump trim, (channel, bump) ∈ outcome.bumps ∧ context.trim channel = some trim ∧
    le bump (abs trim.slope * ofCount trim.trimMax / ofCount 2) = true

theorem any_isFixable_iff :
    outcome.bumps.any (isFixable context.trims) = true ↔ Fixable outcome context := by
  rw [List.any_eq_true]
  constructor
  · rintro ⟨⟨channel, bump⟩, hmem, hfix⟩
    rw [isFixable] at hfix
    split at hfix
    · rename_i trim htrim
      exact ⟨channel, bump, trim, hmem, htrim, hfix⟩
    · cases hfix
  · rintro ⟨channel, bump, trim, hmem, htrim, hfix⟩
    refine ⟨(channel, bump), hmem, ?_⟩
    rw [isFixable, show context.trims[channel]?.join = some trim from htrim]
    exact hfix

/-- What is left to do when the first pass calls for a re-entry. -/
def reenter (bench : Bench σ R) (settings : TrimSettings R) (constants : ThresholdConstants R)
    (raised : Nat) : Stage σ R Unit := do
  let realized ← Threshold.measureRealized bench raised
  Stage.update fun context ↦
    { context with
      threshold := some { constants with dac := raised, realized }
      secondPass := true }
  let _ ← runPass bench settings raised .second

/-- A link with notices entered. -/
def notify (link : Link σ) (notices : List Notice) : Link σ :=
  notices.foldl (fun link notice ↦ link.enter (.notice notice)) link

theorem optimize_run (hthreshold : context.threshold = some constants) :
    (optimize bench settings).run ⟨link, context⟩ =
      match (runPass bench settings constants.dac .first).run ⟨link, context⟩ with
      | (.error cause, first) => (.error cause, first)
      | (.ok outcome, first) =>
        if outcome.bumps.any (isFixable first.context.trims) then
          (reenter bench settings constants
            (raisedForBumps constants outcome.bumps first.context.thdacMax)).run first
        else (.ok (), { first with
          link := notify first.link (outcomeNotices settings outcome) }) := by
  have hneed : (Stage.need context.threshold : Stage σ R _).run ⟨link, context⟩ =
      (.ok constants, ⟨link, context⟩) := by
    rw [hthreshold]
    rfl
  rw [optimize, run_bind, Stage.context_run]
  dsimp only
  rw [run_bind, hneed]
  dsimp only
  rw [run_bind]
  rcases (runPass bench settings constants.dac .first).run ⟨link, context⟩ with
    ⟨cause | outcome, first⟩
  · rfl
  · dsimp only
    rw [run_bind, Stage.context_run]
    dsimp only
    split
    · rfl
    · rw [outcomeNotices]
      split
      · rfl
      · rfl

theorem reenter_run (raised : Nat) (first : Run σ R) :
    (reenter bench settings constants raised).run first =
      match (Threshold.measureRealized bench raised).run first with
      | (.error cause, probed) => (.error cause, probed)
      | (.ok realized, probed) =>
        let again := (runPass bench settings raised .second).run
          ⟨probed.link, reentered probed.context constants raised realized⟩
        (again.1.map fun _ ↦ (), again.2) := by
  rw [reenter, run_bind]
  rcases (Threshold.measureRealized bench raised).run first with ⟨cause | realized, probed⟩
  · rfl
  · dsimp only
    rw [run_bind]
    change (runPass bench settings raised .second >>= fun _ ↦ pure ()).run
      ⟨probed.link, reentered probed.context constants raised realized⟩ = _
    rw [run_bind]
    rcases (runPass bench settings raised .second).run
      ⟨probed.link, reentered probed.context constants raised realized⟩ with ⟨_ | _, _⟩ <;> rfl

/-- A first pass calls for a second one: a channel can be helped, and there is a level to be had at
the raised register. -/
structure CallsForMore (bench : Bench σ R) (raised : Nat)
    (first : Except (CalibrationError R) (PassOutcome R) × Run σ R) (outcome : PassOutcome R)
    (realized : R) (probed : Run σ R) : Prop where
  answer : first.1 = .ok outcome
  fixable : Fixable outcome first.2.context
  probe : (Threshold.measureRealized bench raised).run first.2 = (.ok realized, probed)

/-- The register is raised for the largest request, the level there is read, and the second pass is
the last. -/
structure Escalates (bench : Bench σ R) (settings : TrimSettings R) (context : Context R)
    (constants : ThresholdConstants R) (first : Run σ R) (outcome : PassOutcome R) (realized : R)
    (probed : Run σ R) (dac : Nat) (final : Except (CalibrationError R) Unit × Run σ R) :
    Prop where
  forLargest : ∃ largest, IsLargest (outcome.bumps.map (·.2)) largest ∧
    dac = toNat (smaller (ofCount constants.dac + ceil (largest / constants.slope) + ofCount 1)
      (ofCount context.thdacMax))
  raised : Raised constants.dac dac context.thdacMax
  /-- The level is that of the first channel the first pass left in use. -/
  level : ∃ probe entries, first.context.mask.unmasked.head? = some probe ∧
    probed.link.journal = first.link.journal ++ entries ∧
    LevelRead bench (context.channelKey probe) (.threshold dac context.trimMid) (.ok realized)
      entries
  again : ∃ answer, final.1 = answer.map (fun _ ↦ ()) ∧
    (runPass bench settings dac .second).run
      ⟨probed.link, reentered probed.context constants dac realized⟩ = (answer, final.2)
  threshold : final.2.context.threshold = some { constants with dac, realized }
  secondPass : final.2.context.secondPass = true

/-- How it ends after a first pass. -/
inductive Stops (bench : Bench σ R) (settings : TrimSettings R) (context : Context R)
    (constants : ThresholdConstants R) :
    Except (CalibrationError R) (PassOutcome R) × Run σ R →
      Except (CalibrationError R) Unit × Run σ R → Prop
  | failed {cause : CalibrationError R} {first : Run σ R} :
    Stops bench settings context constants (.error cause, first) (.error cause, first)
  | unfixable {outcome : PassOutcome R} {first : Run σ R}
    (hfixable : ¬Fixable outcome first.context) :
    Stops bench settings context constants (.ok outcome, first)
      (.ok (), { first with link := notify first.link (outcomeNotices settings outcome) })
  | unrealized {outcome : PassOutcome R} {cause : CalibrationError R} {first probed : Run σ R}
    (hfixable : Fixable outcome first.context)
    (hprobe : (Threshold.measureRealized bench
      (raisedForBumps constants outcome.bumps context.thdacMax)).run first =
        (.error cause, probed))
    (hlevel : ∃ entries, probed.link.journal = first.link.journal ++ entries ∧
      Threshold.RealizedRead bench (raisedForBumps constants outcome.bumps context.thdacMax)
        first.context (.error cause) entries) :
    Stops bench settings context constants (.ok outcome, first) (.error cause, probed)

variable {first : Except (CalibrationError R) (PassOutcome R) × Run σ R}
  {final : Except (CalibrationError R) Unit × Run σ R} {realized : R} {probed : Run σ R}

/-- Reading a level enters nothing into the context. -/
theorem measureRealized_reads {dac : Nat} {run : Run σ R} {answer : Except (CalibrationError R) R}
    (h : (Threshold.measureRealized bench dac).run run = (answer, probed)) :
    probed.context = run.context ∧ ∃ entries, probed.link.journal = run.link.journal ++ entries ∧
      Threshold.RealizedRead bench dac run.context answer entries := by
  have hruns : (Threshold.measureRealized bench dac).Ensures run.context _ :=
    Threshold.measureRealized_ensures run.context
  obtain ⟨entries, hjournal, hcontext, hread⟩ := hruns run.link
  rw [h] at hjournal hcontext hread
  exact ⟨hcontext, entries, hjournal, hread⟩

theorem Stops.context_eq (h : Stops bench settings context constants first final) :
    final.2.context = first.2.context := by
  cases h with
  | failed | unfixable => rfl
  | unrealized _ hprobe => exact (measureRealized_reads hprobe).1

theorem CallsForMore.escalates [BumpScalar R] {raised : Nat}
    (h : CallsForMore bench raised first outcome realized probed)
    (hpass : PassRun bench settings constants.dac .first context first.1 entries first.2.context)
    (hraised : raised = raisedForBumps constants outcome.bumps context.thdacMax)
    (hslope : lt (ofCount 0) constants.slope = true) (hdac : constants.dac ≤ context.thdacMax)
    (htop : context.thdacMax ≤ maxRegister) :
    Escalates bench settings context constants first.2 outcome realized probed raised
      ((reenter bench settings constants raised).run first.2) := by
  rw [h.answer] at hpass
  have hpos := hpass.bumps_pos
  obtain ⟨channel, bump, _, hmem, _⟩ := h.fixable
  have hne : outcome.bumps.map (·.2) ≠ [] := List.ne_nil_of_mem (List.mem_map_of_mem hmem)
  have hruns : (runPass bench settings raised .second).Ensures
      (reentered probed.context constants raised realized) _ := runPass_ensures _
  obtain ⟨_, _, hagain⟩ := hruns probed.link
  obtain ⟨-, read, hjournal, hread⟩ := measureRealized_reads h.probe
  obtain ⟨probe, hprobe, hlevel⟩ := hread.exists_level
  rw [Context.channelKey, hpass.spec, hpass.trimMid] at hlevel
  rw [reenter_run, h.probe]
  exact {
    forLargest := ⟨_, isLargest_foldl_larger hne hpos, hraised⟩
    raised := hraised ▸ raised_raisedForBumps hslope hdac htop hpos
    level := ⟨probe, read, hprobe, hjournal, hlevel⟩
    again := ⟨_, rfl, rfl⟩
    threshold := by
      dsimp only
      rw [hagain.replay]
      rfl
    secondPass := by
      dsimp only
      rw [hagain.replay]
      rfl }

/-- The trims are done in one pass or two, and in two just in case the first one calls for it. -/
theorem trims_escalate_once [BumpScalar R] (bench : Bench σ R) (settings : TrimSettings R)
    (context : Context R) {constants : ThresholdConstants R}
    (hthreshold : context.threshold = some constants)
    (hslope : lt (ofCount 0) constants.slope = true) (hdac : constants.dac ≤ context.thdacMax)
    (htop : context.thdacMax ≤ maxRegister) (link : Link σ) :
    (∀ outcome realized probed,
      CallsForMore bench (raisedForBumps constants outcome.bumps context.thdacMax)
        ((runPass bench settings constants.dac .first).run ⟨link, context⟩) outcome realized
        probed →
      Escalates bench settings context constants
        ((runPass bench settings constants.dac .first).run ⟨link, context⟩).2 outcome realized
        probed (raisedForBumps constants outcome.bumps context.thdacMax)
        ((optimize bench settings).run ⟨link, context⟩)) ∧
    ((∀ outcome realized probed,
      ¬CallsForMore bench (raisedForBumps constants outcome.bumps context.thdacMax)
        ((runPass bench settings constants.dac .first).run ⟨link, context⟩) outcome realized
        probed) →
      Stops bench settings context constants
          ((runPass bench settings constants.dac .first).run ⟨link, context⟩)
          ((optimize bench settings).run ⟨link, context⟩) ∧
        ((optimize bench settings).run ⟨link, context⟩).2.context.threshold = context.threshold ∧
        ((optimize bench settings).run ⟨link, context⟩).2.context.secondPass =
          context.secondPass) := by
  have hruns : (runPass bench settings constants.dac .first).Ensures context _ :=
    runPass_ensures context
  obtain ⟨entries, _, hpass⟩ := hruns link
  rw [optimize_run hthreshold]
  generalize (runPass bench settings constants.dac .first).run ⟨link, context⟩ = first at hpass ⊢
  have hkept : ∀ {final}, Stops bench settings context constants first final →
      final.2.context.threshold = context.threshold ∧
        final.2.context.secondPass = context.secondPass := by
    intro final hstops
    rw [hstops.context_eq, hpass.replay]
    exact ⟨rfl, rfl⟩
  rcases first with ⟨cause | outcome, first⟩
  · refine ⟨fun _ _ _ hcalls ↦ (nomatch hcalls.answer), fun _ ↦ ?_⟩
    exact ⟨.failed, hkept .failed⟩
  have hthdacMax : first.context.thdacMax = context.thdacMax := hpass.thdacMax
  dsimp only
  rw [hthdacMax]
  by_cases hfixable : Fixable outcome first.context
  · rw [if_pos (any_isFixable_iff.mpr hfixable)]
    constructor
    · intro called realized probed hcalls
      obtain rfl := Except.ok.inj hcalls.answer
      exact hcalls.escalates hpass rfl hslope hdac htop
    · intro hnever
      rw [reenter_run]
      rcases hprobe : (Threshold.measureRealized bench
        (raisedForBumps constants outcome.bumps context.thdacMax)).run first with
        ⟨cause | realized, probed⟩
      · have hlevel := (measureRealized_reads hprobe).2
        exact ⟨.unrealized hfixable hprobe hlevel, hkept (.unrealized hfixable hprobe hlevel)⟩
      · exact absurd ⟨rfl, hfixable, hprobe⟩ (hnever outcome realized probed)
  · rw [if_neg (mt any_isFixable_iff.mp hfixable)]
    refine ⟨fun called _ _ hcalls ↦ ?_, fun _ ↦ ⟨.unfixable hfixable, hkept (.unfixable hfixable)⟩⟩
    obtain rfl := Except.ok.inj hcalls.answer
    exact absurd hcalls.fixable hfixable

/-- Two channels four counts short at 25 call for a second pass, at 28. -/
theorem trims_escalate_once_short :
    lt (ofCount 0) Exact.shortConstants.slope = true ∧
      Exact.shortConstants.dac ≤ Exact.shortContext.thdacMax ∧
      Exact.shortContext.thdacMax ≤ maxRegister ∧
      ∃ probed, Escalates Exact.shortBench Exact.settings.trim Exact.shortContext
        Exact.shortConstants Exact.shortFirst.2 Exact.shortOutcome 106 probed 28
        ((optimize Exact.shortBench Exact.settings.trim).run ⟨.new (), Exact.shortContext⟩) := by
  have hanswer : Exact.shortFirst.1 = .ok Exact.shortOutcome := by cbv
  have hfixable : Fixable Exact.shortOutcome Exact.shortFirst.2.context :=
    any_isFixable_iff.mp (by cbv)
  have hraised : raisedForBumps Exact.shortConstants Exact.shortOutcome.bumps
      Exact.shortContext.thdacMax = 28 := by cbv
  have hprobe : ((Threshold.measureRealized Exact.shortBench (raisedForBumps Exact.shortConstants
      Exact.shortOutcome.bumps Exact.shortContext.thdacMax)).run Exact.shortFirst.2).1 =
      .ok 106 := by
    rw [hraised]
    cbv
  have hslope : lt (ofCount 0) Exact.shortConstants.slope = true := by
    norm_num [lt_rat, Exact.shortConstants, ofCount]
  obtain ⟨hescalates, -⟩ := trims_escalate_once Exact.shortBench Exact.settings.trim
    Exact.shortContext rfl hslope (by decide) (by decide) (.new ())
  have hshort := hescalates _ _ _ ⟨hanswer, hfixable, Prod.ext hprobe rfl⟩
  rw [hraised] at hshort
  exact ⟨hslope, by decide, by decide, _, hshort⟩

end Trim

end ThresholdTrim
