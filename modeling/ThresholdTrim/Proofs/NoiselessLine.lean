import ThresholdTrim.Proofs.Alignment
import ThresholdTrim.Proofs.FirstBatch
import ThresholdTrim.Proofs.LeastSquares
import ThresholdTrim.Proofs.VerifiedThreshold

/-!
# A device that responds along a line

On a device without noise nothing is left to chance: each reading comes back at once with samples of
one value, so pruning and averaging give that value, and least squares through points of a line give
the line. The register value the line is inverted to is verified at its first reading, and it is as
good as any other, since rounding moves it by half a step at most.

What a stage does is said by `Stage.Gives`: it succeeds with a known value, leaves the context as it
is, and reads the requests listed, once each and without a pause. The statements are read in exact
arithmetic.
-/

namespace ThresholdTrim

open Scalar Statistics

/-! ## Readings without a retry -/

variable {σ R α β γ : Type} {requests later : List Request}

/-- The requests were read once each, in this order, and nothing was waited for. -/
structure Link.Reads (requests : List Request) (link after : Link σ) : Prop where
  clock : after.clock = link.clock
  journal : ∃ entries, after.journal = link.journal ++ entries ∧ entries.requests = requests ∧
    .pause ∉ entries

namespace Link.Reads

variable {link between after : Link σ}

theorem refl (link : Link σ) : link.Reads [] link :=
  ⟨rfl, [], (List.append_nil _).symm, rfl, List.not_mem_nil⟩

theorem trans (h : link.Reads requests between) (hlater : between.Reads later after) :
    link.Reads (requests ++ later) after := by
  obtain ⟨hclock, entries, hjournal, hrequests, hpause⟩ := h
  obtain ⟨hclock', entries', hjournal', hrequests', hpause'⟩ := hlater
  refine ⟨hclock'.trans hclock, entries ++ entries', ?_, ?_, ?_⟩
  · rw [hjournal', hjournal, List.append_assoc]
  · rw [Journal.requests_append, hrequests, hrequests']
  · exact List.not_mem_append hpause hpause'

end Link.Reads

/-- From every link the sampler succeeds with this value, and reads these requests. -/
def Sampler.Gives (sampler : Sampler σ R α) (a : α) (requests : List Request) : Prop :=
  ∀ link : Link σ, ∃ after, sampler.run link = (.ok a, after) ∧ link.Reads requests after

namespace Stage

/-- From this context and every link the stage succeeds with this value, reads these requests and
leaves the context alone. -/
def Gives (stage : Stage σ R α) (context : Context R) (a : α) (requests : List Request) : Prop :=
  ∀ link : Link σ, ∃ after,
    stage.run ⟨link, context⟩ = (.ok a, ⟨after, context⟩) ∧ link.Reads requests after

variable {stage : Stage σ R α} {next : α → Stage σ R β} {context : Context R} {a : α} {b : β}

theorem gives_pure (a : α) : (pure a : Stage σ R α).Gives context a [] :=
  fun link ↦ ⟨link, rfl, .refl link⟩

theorem Gives.bind (h : stage.Gives context a requests) (hnext : (next a).Gives context b later) :
    (stage >>= next).Gives context b (requests ++ later) := by
  intro link
  obtain ⟨between, hrun, hreads⟩ := h link
  obtain ⟨after, hrun', hreads'⟩ := hnext between
  refine ⟨after, ?_, hreads.trans hreads'⟩
  rw [run_bind, hrun]
  exact hrun'

/-- What comes after the last reading. -/
theorem Gives.bind_last (h : stage.Gives context a requests)
    (hnext : (next a).Gives context b []) : (stage >>= next).Gives context b requests := by
  have hboth := h.bind hnext
  rwa [List.append_nil] at hboth

theorem gives_context : (Stage.context : Stage σ R _).Gives context context [] :=
  fun link ↦ ⟨link, rfl, .refl link⟩

theorem gives_need {value : Option α} (h : value = some a) :
    (need value : Stage σ R α).Gives context a [] := by
  obtain rfl := h
  exact gives_pure a

theorem gives_sample {sampler : Sampler σ R α} (h : sampler.Gives a requests) :
    (sample sampler).Gives context a requests := by
  intro link
  obtain ⟨after, hrun, hreads⟩ := h link
  refine ⟨after, ?_, hreads⟩
  rw [sample_run, hrun]

theorem Gives.attempt (h : stage.Gives context a requests) :
    (Stage.attempt stage).Gives context (.ok a) requests := by
  intro link
  obtain ⟨after, hrun, hreads⟩ := h link
  refine ⟨after, ?_, hreads⟩
  rw [attempt_run, hrun]

theorem gives_mapM {f : β → Stage σ R γ} {value : β → γ} {request : β → Request} (xs : List β)
    (h : ∀ x ∈ xs, (f x).Gives context (value x) [request x]) :
    (xs.mapM f).Gives context (xs.map value) (xs.map request) := by
  induction xs with
  | nil => exact gives_pure []
  | cons x xs ih =>
    rw [List.mapM_cons, List.map_cons, List.map_cons]
    have hrest := ih fun y hmem ↦ h y (List.mem_cons_of_mem x hmem)
    refine (h x List.mem_cons_self).bind ?_
    exact hrest.bind_last (gives_pure _)

end Stage

/-! ## The stages on a line -/

/-- Whenever the request is made, samples of one value come back. -/
def Bench.AnswersLevel {R : Type} (bench : Bench σ R) (request : Request) (level : ℚ) : Prop :=
  ∀ state, ∃ batch, (bench.frontEnd.acquire request state).1 = .ok batch ∧ batch ≠ [] ∧
    ∀ sample ∈ batch, (sample : ℚ) = level

namespace Sampler

variable {bench : Bench σ ℚ} {request : Request} {batch : List ℕ} {level : ℚ}

/-- A batch that comes at once is the only one asked for. -/
theorem acquire_run_of_answer {bench : Bench σ R} {link : Link σ}
    (h : (bench.frontEnd.acquire request link.frontEnd).1 = .ok batch) (hne : batch ≠ []) :
    ∃ after, (acquire bench request).run link = (.ok batch, after) ∧
      link.Reads [request] after := by
  have hretry : (retry bench request (bench.sampling.attempts - 1)).run link =
      (.ok (.ok batch), called bench request link) := by
    cases bench.sampling.attempts - 1 with
    | zero | succ =>
      rw [retry, run_bind, call_run, h]
      dsimp only
      rw [usable_of_ne_nil hne]
      rfl
  have hcalled : link.Reads [request] (called bench request link) :=
    ⟨rfl, _, journal_called link, rfl, by simp⟩
  refine ⟨_, acquire_run_of_batch hretry, ?_⟩
  split
  · exact hcalled
  · have hnotice : (called bench request link).Reads []
        ((called bench request link).enter (.notice .partialBatch)) :=
      ⟨rfl, _, Link.journal_enter _ _, rfl, by simp⟩
    exact hcalled.trans hnotice

/-- Samples of one value are all kept, and their mean is the value. -/
theorem prunedMeanLevel_gives {channel : ChannelKey} {setting : Setting} {margin : ℚ}
    {flavor : Flavor} (hmargin : 0 < margin)
    (h : bench.AnswersLevel ⟨channel, setting, bench.sampling.oversampled⟩ level) :
    (prunedMeanLevel bench channel setting margin flavor).Gives level
      [⟨channel, setting, bench.sampling.oversampled⟩] := by
  intro link
  obtain ⟨batch, hanswer, hne, hbatch⟩ := h link.frontEnd
  obtain ⟨after, hrun, hreads⟩ := acquire_run_of_answer hanswer hne
  refine ⟨after, ?_, hreads⟩
  obtain ⟨center, hmedian⟩ := exists_median hne
  have hcenter : (center : ℚ) = level :=
    hbatch center (mem_of_median hmedian)
  have hkept : prune batch (ofCount center : ℚ) margin flavor = batch := by
    refine List.filter_eq_self.mpr fun sample hmem ↦ ?_
    obtain rfl : sample = center :=
      Nat.cast_injective ((hbatch sample hmem).trans hcenter.symm)
    refine lt_rat.mpr ?_
    change |flavor.toMillivolts (ofCount sample : ℚ) -
      flavor.toMillivolts (ofCount sample)| < margin
    rw [sub_self, abs_zero]
    exact hmargin
  have hmean : mean (ofCounts batch) = level := by
    refine mean_of_forall_eq (by simpa [ofCounts] using hne) fun x hmem ↦ ?_
    obtain ⟨sample, hsample, rfl⟩ := List.mem_map.mp hmem
    exact hbatch sample hsample
  rw [prunedMeanLevel, run_bind, hrun]
  dsimp only
  rw [hmedian]
  dsimp only
  rw [hkept]
  cases batch with
  | nil => exact absurd rfl hne
  | cons sample rest =>
    rw [← hmean]
    rfl

end Sampler

namespace Threshold

variable {bench : Bench σ ℚ} {settings : ThresholdSettings ℚ} {context : Context ℚ}
  {device : DeviceBaseline ℚ} {probe dac : ℕ} {b m : ℚ}

/-- Reading of the probe channel at a register value and mid trim. -/
def probeRequest (bench : Bench σ R) (context : Context R) (probe dac : Nat) : Request :=
  ⟨context.channelKey probe, .threshold dac context.trimMid, bench.sampling.oversampled⟩

theorem probeGuess_gives {level : ℚ} (hmargin : 0 < settings.guessMarginMv)
    (h : bench.AnswersLevel (probeRequest bench context probe dac) level) :
    (probeGuess bench settings probe dac).Gives context (some ((dac : ℚ), level))
      [probeRequest bench context probe dac] := by
  refine Stage.gives_context.bind ?_
  exact (Stage.gives_sample (Sampler.prunedMeanLevel_gives hmargin h)).attempt.bind_last
    (Stage.gives_pure _)

/-- Guess points that can be fitted. -/
structure Guesses (settings : ThresholdSettings ℚ) : Prop where
  nodup : settings.guessPoints.Nodup
  two_le : 2 ≤ settings.guessPoints.length
  margin : 0 < settings.guessMarginMv

theorem fitResponse_gives (hguesses : Guesses settings)
    (hslope : settings.slopeMin ≤ m ∧ m ≤ settings.slopeMax)
    (h : ∀ dac ∈ settings.guessPoints,
      bench.AnswersLevel (probeRequest bench context probe dac) (b + m * dac)) :
    (fitResponse bench settings probe).Gives context ⟨m, b⟩
      (settings.guessPoints.map (probeRequest bench context probe)) := by
  refine (Stage.gives_mapM settings.guessPoints fun dac hmem ↦
    probeGuess_gives hguesses.margin (h dac hmem)).bind_last ?_
  have hpoints :
      (settings.guessPoints.map fun dac : ℕ ↦ some ((dac : ℚ), b + m * dac)).filterMap id =
        settings.guessPoints.map fun dac : ℕ ↦ ((dac : ℚ), b + m * dac) := by
    rw [List.filterMap_map]
    exact congrFun List.filterMap_eq_map _
  have hfit : Line.fit
      ((settings.guessPoints.map fun dac : ℕ ↦ ((dac : ℚ), b + m * dac)).map (·.1))
      ((settings.guessPoints.map fun dac : ℕ ↦ ((dac : ℚ), b + m * dac)).map (·.2)) =
        .ok ⟨m, b⟩ := by
    rw [List.map_map, List.map_map]
    refine Line.fit_of_line (by simp) ((List.length_map _).symm ▸ hguesses.two_le)
      (minVariance_lt_spread_of_nodup hguesses.nodup hguesses.two_le _) ?_
    rw [List.zip_map']
    rintro _ hmem
    obtain ⟨dac, _, rfl⟩ := List.mem_map.mp hmem
    exact add_comm _ _
  have hband : within settings.slopeMin settings.slopeMax m = true := by
    rw [within, le_rat.mpr hslope.1, le_rat.mpr hslope.2]
    rfl
  dsimp only
  rw [hpoints, hfit]
  dsimp only
  rw [if_pos hband]
  exact Stage.gives_pure _

theorem fitWithRefit_gives (hguesses : Guesses settings)
    (hslope : settings.slopeMin ≤ m ∧ m ≤ settings.slopeMax)
    (h : ∀ dac ∈ settings.guessPoints,
      bench.AnswersLevel (probeRequest bench context probe dac) (b + m * dac)) :
    (fitWithRefit bench settings probe).Gives context ⟨m, b⟩
      (settings.guessPoints.map (probeRequest bench context probe)) :=
  (fitResponse_gives hguesses hslope h).attempt.bind_last (Stage.gives_pure _)

theorem invertTarget_eq_ok {line : Line ℚ} {target : ℚ} {thdacMax : ℕ}
    (hround : Scalar.round (line.invert target) = (dac : ℚ)) (hdac : dac ≤ thdacMax) :
    invertTarget line target thdacMax = .ok dac := by
  have hlow : lt (dac : ℚ) (ofCount 0) = false := lt_eq_false_rat.mpr (Nat.cast_le.mpr dac.zero_le)
  have hhigh : lt (ofCount thdacMax) (dac : ℚ) = false :=
    lt_eq_false_rat.mpr (Nat.cast_le.mpr hdac)
  have hnat : toNat (dac : ℚ) = dac := toNat_intCast dac
  rw [invertTarget, hround, hlow, hhigh, hnat]
  rfl

theorem verify_gives {level baselineMv goalMv : ℚ} (hmargin : 0 < settings.guessMarginMv)
    (h : bench.AnswersLevel (probeRequest bench context probe dac) level)
    (hcheck :
      checkRealized context.spec.flavor settings.deviationTolerance baselineMv goalMv level =
        .ok level) (further : ℕ) :
    (verify bench settings probe dac baselineMv goalMv further).Gives context level
      [probeRequest bench context probe dac] := by
  have htry : (tryCandidate bench settings probe dac baselineMv goalMv).Gives context level
      [probeRequest bench context probe dac] := by
    refine Stage.gives_context.bind ?_
    refine (Stage.gives_sample (Sampler.prunedMeanLevel_gives hmargin h)).bind_last ?_
    rw [hcheck]
    exact Stage.gives_pure _
  cases further with
  | zero | succ => exact htry.attempt.bind_last (Stage.gives_pure _)

/-! ## The register value -/

/-- Level the register is solved for. -/
def targetLevel (context : Context ℚ) (device : DeviceBaseline ℚ)
    (settings : ThresholdSettings ℚ) : ℚ :=
  context.spec.flavor.toCounts (targetMv device context.spec.flavor settings)

/-- The probe channel lies on the line `b + m * dac` wherever it is read, and the line meets the
target, rounded to a step, at a register value that will do. -/
structure OnLine (bench : Bench σ ℚ) (settings : ThresholdSettings ℚ) (context : Context ℚ)
    (device : DeviceBaseline ℚ) (probe dac : ℕ) (b m : ℚ) : Prop where
  deviceBaseline : context.deviceBaseline = some device
  head_unmasked : context.mask.unmasked.head? = some probe
  guesses : Guesses settings
  slopeMin_pos : 0 < settings.slopeMin
  slope : settings.slopeMin ≤ m ∧ m ≤ settings.slopeMax
  answers : ∀ asked, asked ∈ settings.guessPoints ∨ asked = dac →
    bench.AnswersLevel (probeRequest bench context probe asked) (b + m * asked)
  round : Scalar.round ((targetLevel context device settings - b) / m) = (dac : ℚ)
  dac_le : dac ≤ settings.thdacMax
  baseline : device.median ≤ b + m * dac
  deviation : |(context.spec.flavor.toMillivolts (b + m * dac) -
    targetMv device context.spec.flavor settings) /
      targetMv device context.spec.flavor settings| ≤ settings.deviationTolerance

theorem toMillivolts_mono (flavor : Flavor) {x y : ℚ} (h : x ≤ y) :
    flavor.toMillivolts x ≤ flavor.toMillivolts y := by
  have hcount : (0 : ℚ) ≤ Flavor.millivoltsPerCount := by
    change (0 : ℚ) ≤ ((1000 : ℕ) : ℚ) / (4095 : ℕ)
    positivity
  have hscale : (0 : ℚ) ≤ flavor.inputScale := by
    cases flavor with
    | mmfe8 =>
      change (0 : ℚ) ≤ (1 : ℕ)
      positivity
    | sfeb | pfeb =>
      change (0 : ℚ) ≤ ((3 : ℕ) : ℚ) / (2 : ℕ)
      positivity
  exact mul_le_mul_of_nonneg_right (mul_le_mul_of_nonneg_right h hcount) hscale

namespace OnLine

theorem slope_pos (h : OnLine bench settings context device probe dac b m) : 0 < m :=
  h.slopeMin_pos.trans_le h.slope.1

theorem solve_gives (h : OnLine bench settings context device probe dac b m) :
    (solve bench settings).Gives context
      ⟨m, b, dac, targetLevel context device settings, b + m * dac⟩
      (settings.guessPoints.map (probeRequest bench context probe) ++
        [probeRequest bench context probe dac]) := by
  have hcheck : checkRealized context.spec.flavor settings.deviationTolerance
      (context.spec.flavor.toMillivolts device.median)
      (targetMv device context.spec.flavor settings) (b + m * dac) = .ok (b + m * dac) :=
    checkRealized_eq_ok_iff.mpr ⟨lt_eq_false_rat.mpr (toMillivolts_mono _ h.baseline),
      lt_eq_false_rat.mpr h.deviation⟩
  have hfit := fitWithRefit_gives (b := b) h.guesses h.slope
    fun asked hmem ↦ h.answers asked (.inl hmem)
  have hinvert : invertTarget ⟨m, b⟩ (targetLevel context device settings) settings.thdacMax =
      .ok dac := invertTarget_eq_ok h.round h.dac_le
  rw [targetLevel] at hinvert
  refine Stage.gives_context.bind ?_
  refine (Stage.gives_need h.deviceBaseline).bind ?_
  refine (Stage.gives_need h.head_unmasked).bind ?_
  refine hfit.bind ?_
  dsimp only
  rw [hinvert]
  exact (verify_gives h.guesses.margin (h.answers dac (.inr rfl)) hcheck _).bind_last
    (Stage.gives_pure _)

/-- Rounding moves the register value by half a step at most. -/
theorem abs_sub_le_half (h : OnLine bench settings context device probe dac b m) :
    |(targetLevel context device settings - b) / m - dac| ≤ 1 / 2 := by
  obtain ⟨n, hn, hhalf⟩ := exists_round_eq ((targetLevel context device settings - b) / m)
  rwa [← hn, h.round] at hhalf

end OnLine

/-- Along a line without noise, solving finds the line and the register value that comes closest to
the target, in one reading of each guess point and one of that value. -/
theorem solve_finds_line (h : OnLine bench settings context device probe dac b m) (link : Link σ) :
    ∃ after, (solve bench settings).run ⟨link, context⟩ =
        (.ok ⟨m, b, dac, targetLevel context device settings, b + m * dac⟩, ⟨after, context⟩) ∧
      link.Reads (settings.guessPoints.map (probeRequest bench context probe) ++
        [probeRequest bench context probe dac]) after ∧
      |b + m * dac - targetLevel context device settings| ≤ m / 2 ∧
      ∀ other ≤ settings.thdacMax, |b + m * dac - targetLevel context device settings| ≤
        |b + m * other - targetLevel context device settings| := by
  obtain ⟨after, hrun, hreads⟩ := h.solve_gives link
  have hm := h.slope_pos
  have hhalf := h.abs_sub_le_half
  -- distances to the target are told in steps from where the line meets it
  have hsteps : ∀ x : ℕ, |b + m * x - targetLevel context device settings| =
      m * |(x : ℚ) - (targetLevel context device settings - b) / m| := by
    intro x
    have hline : ∀ x : ℕ, (fun x : ℕ ↦ b + m * x) x = b + m * x := fun _ ↦ rfl
    have hdistance : |(fun x : ℕ ↦ b + m * x) x - targetLevel context device settings| =
        |m| * |(x : ℚ) - (targetLevel context device settings - b) / m| :=
      Trim.abs_line_sub hline hm.ne' x
    rw [abs_of_pos hm] at hdistance
    exact hdistance
  refine ⟨after, hrun, hreads, ?_, fun other hother ↦ ?_⟩
  · rw [hsteps, abs_sub_comm]
    calc m * |(targetLevel context device settings - b) / m - dac|
        ≤ m * (1 / 2) := mul_le_mul_of_nonneg_left hhalf hm.le
      _ = m / 2 := by ring
  · rw [hsteps, hsteps]
    have hdac : max 0 (min (dac : ℤ) settings.thdacMax) = dac := by
      have hle := h.dac_le
      omega
    have hclosest := abs_clamp_sub_le (n := dac) (by exact_mod_cast hhalf)
      (Int.natCast_nonneg other) (Int.ofNat_le.mpr hother)
    rw [hdac, Int.cast_natCast, Int.cast_natCast] at hclosest
    exact mul_le_mul_of_nonneg_left hclosest hm.le

end Threshold

namespace Exact

/-- What is known of the pair of channels when its register is to be solved for. -/
def lineContext : Context ℚ :=
  { Context.new spec 200 2 with deviceBaseline := some ⟨100, 100, 1, 2⟩ }

/-- The line `50 + 2 * dac` meets the target of 129 halfway between two register values. -/
theorem lineContext_onLine :
    Threshold.OnLine bench settings.threshold lineContext ⟨100, 100, 1, 2⟩ 0 40 50 2 where
  deviceBaseline := rfl
  head_unmasked := by decide
  guesses := ⟨by decide, by decide, by decide +kernel⟩
  slopeMin_pos := by decide +kernel
  slope := by decide +kernel
  answers asked hasked state := by
    have hcases : asked = 10 ∨ asked = 20 ∨ asked = 40 := by
      simpa [settings, or_assoc] using hasked
    rcases hcases with rfl | rfl | rfl
    · exact ⟨[70], by cbv, by decide, by decide +kernel⟩
    · exact ⟨[90], by cbv, by decide, by decide +kernel⟩
    · exact ⟨[130], by cbv, by decide, by decide +kernel⟩
  round := by decide +kernel
  dac_le := by decide
  baseline := by decide +kernel
  deviation := by decide +kernel

end Exact

namespace Threshold

theorem solve_finds_line_halfway :
    OnLine Exact.bench Exact.settings.threshold Exact.lineContext ⟨100, 100, 1, 2⟩ 0 40 50 2 ∧
      ∃ after, (solve Exact.bench Exact.settings.threshold).run ⟨.new (), Exact.lineContext⟩ =
          (.ok ⟨2, 50, 40, 129, 130⟩, ⟨after, Exact.lineContext⟩) ∧
        (Link.new ()).Reads ([10, 20, 40].map (probeRequest Exact.bench Exact.lineContext 0))
          after := by
  obtain ⟨after, hrun, hreads, _⟩ := solve_finds_line Exact.lineContext_onLine (.new ())
  have htarget :
      targetLevel Exact.lineContext ⟨100, 100, 1, 2⟩ Exact.settings.threshold = 129 := by
    decide +kernel
  have hlevel : (50 + 2 * (40 : ℕ) : ℚ) = 130 := by norm_num
  rw [htarget, hlevel] at hrun
  exact ⟨Exact.lineContext_onLine, after, hrun, hreads⟩

end Threshold

end ThresholdTrim
