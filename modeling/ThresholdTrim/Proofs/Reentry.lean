import ThresholdTrim.Proofs.Escalation
import ThresholdTrim.Proofs.Registers
import ThresholdTrim.Proofs.SteadyPass

/-!
# What a re-entry repairs

In exact arithmetic, a device whose levels all move up by the same amount is trimmed the way it was
before. The slopes are differences of levels and stay, the regions end at the same points, the
median over the device moves along, and each channel is at the same distance from it. So when the
register is raised for the channels below their baseline, all a second pass changes is how far the
channels lie above their baselines, and the raise is chosen to be enough for the one that is short
of most.

`Trim.resultOf_shift` is the first half, `Trim.largestBump_le` the second.
-/

namespace ThresholdTrim

open Scalar Statistics

/-! ## Levels that move together -/

/-- The median moves along with its list. -/
theorem Statistics.scalarMedian_map_add (xs : List ℚ) (δ : ℚ) :
    scalarMedian (xs.map (· + δ)) = (scalarMedian xs).map (· + δ) := by
  rw [scalarMedian, scalarMedian, medianBy, medianBy, List.length_map, ← List.getElem?_map]
  rw [List.map_mergeSort]
  intro a _ b _
  change (!decide (b < a)) = !decide (b + δ < a + δ)
  rw [decide_eq_decide.mpr (add_lt_add_iff_right δ)]

/-- The same trim, with a threshold that lies higher. -/
def TrimResult.raise (δ : ℚ) (result : TrimResult ℚ) : TrimResult ℚ :=
  { result with eff := result.eff + δ, median := result.median + δ }

namespace Trim

variable {settings : TrimSettings ℚ} {eff eff' level level' : Nat → ℚ} {δ : ℚ}

/-- The same response, with thresholds that lie higher. -/
def Region.shift (δ : ℚ) (region : Region ℚ) : Region ℚ :=
  { region with midEff := region.midEff + δ }

theorem Region.upTo_shift (high : Nat) (slope midEff : ℚ) (depth : Nat) :
    upTo high slope (midEff + δ) depth = (upTo high slope midEff depth).shift δ := by
  rw [upTo, upTo]
  split
  · rfl
  · rfl

theorem searchHigh_cons (tolerance midEff slopeBelow : ℚ) (mid high : Nat) (rest : List Nat)
    (depth : Nat) :
    searchHigh (m := Id) eff tolerance mid midEff slopeBelow (high :: rest) depth =
      if slopesAgree slopeBelow ((eff high - midEff) / ofCount (high - mid)) tolerance then
        Region.upTo high ((slopeBelow + (eff high - midEff) / ofCount (high - mid)) / ofCount 2)
          midEff depth
      else searchHigh (m := Id) eff tolerance mid midEff slopeBelow rest (depth + 1) :=
  rfl

theorem searchHigh_shift {tolerance midEff slopeBelow : ℚ} {mid : Nat} {points : List Nat}
    (h : ∀ trim ∈ points, eff' trim = eff trim + δ) (depth : Nat) :
    searchHigh (m := Id) eff' tolerance mid (midEff + δ) slopeBelow points depth =
      Region.shift δ (searchHigh (m := Id) eff tolerance mid midEff slopeBelow points depth) := by
  induction points generalizing depth with
  | nil => rfl
  | cons high rest ih =>
    rw [searchHigh_cons, searchHigh_cons, h high List.mem_cons_self, add_sub_add_right_eq_sub]
    split
    · exact Region.upTo_shift ..
    · exact ih (fun trim hmem ↦ h trim (List.mem_cons_of_mem _ hmem)) (depth + 1)

theorem searchHigh_trimMax {tolerance midEff slopeBelow : ℚ} {mid : Nat} {points : List Nat}
    (depth : Nat) {region : Region ℚ}
    (h : searchHigh (m := Id) eff tolerance mid midEff slopeBelow points depth = region) :
    region.trimMax = 0 ∨ region.trimMax ∈ points := by
  induction points generalizing depth with
  | nil => exact .inl (congrArg Region.trimMax h.symm)
  | cons high rest ih =>
    rw [searchHigh_cons] at h
    split at h
    · subst h
      rw [Region.upTo]
      split
      · exact .inl rfl
      · exact .inr List.mem_cons_self
    · exact (ih (depth + 1) h).imp_right (List.mem_cons_of_mem _)

/-- The trim points a search needs lie within the register. -/
structure InRange (settings : TrimSettings ℚ) : Prop where
  low : settings.low ≤ settings.trimMax
  mid : settings.mid ≤ settings.trimMax

theorem regionOf_eq_ite (baseline : ℚ) :
    regionOf settings level baseline =
      if settings.mid ≤ settings.low ∨ min settings.high settings.trimMax ≤ settings.mid then
        Region.unusable (level settings.mid - baseline) 0
      else
        searchHigh (m := Id) (fun trim ↦ level trim - baseline) settings.slopeTolerance settings.mid
          (level settings.mid - baseline)
          (((level settings.mid - baseline) - (level settings.low - baseline)) /
            ofCount (settings.mid - settings.low))
          (highPoints settings.mid (min settings.high settings.trimMax)) 0 :=
  rfl

theorem regionOf_shift (hrange : InRange settings)
    (h : ∀ trim ≤ settings.trimMax, level' trim = level trim + δ) (baseline : ℚ) :
    regionOf settings level' baseline = (regionOf settings level baseline).shift δ := by
  have heff : ∀ trim ≤ settings.trimMax, level' trim - baseline = level trim - baseline + δ := by
    intro trim htrim
    rw [h trim htrim, add_sub_right_comm]
  rw [regionOf_eq_ite, regionOf_eq_ite, heff _ hrange.low, heff _ hrange.mid,
    add_sub_add_right_eq_sub]
  split
  · rfl
  · refine searchHigh_shift (fun trim hmem ↦ heff trim ?_) 0
    exact (le_of_mem_highPoints hmem).trans (Nat.min_le_right _ _)

theorem regionOf_trimMax_le (baseline : ℚ) :
    (regionOf settings level baseline).trimMax ≤ settings.trimMax := by
  rw [regionOf_eq_ite]
  split
  · exact Nat.zero_le _
  · rcases searchHigh_trimMax 0 rfl with hzero | hmem
    · exact hzero.le.trans (Nat.zero_le _)
    · exact (le_of_mem_highPoints hmem).trans (Nat.min_le_right _ _)

theorem chooseTrim_add (channelEff deviceEff slope : ℚ) (mid top : Nat) :
    chooseTrim (channelEff + δ) (deviceEff + δ) slope mid top =
      chooseTrim channelEff deviceEff slope mid top := by
  rw [chooseTrim, chooseTrim, add_sub_add_right_eq_sub]

theorem chooseTrim_le_rat (channelEff deviceEff slope : ℚ) (mid top : Nat) :
    chooseTrim channelEff deviceEff slope mid top ≤ top := by
  rw [chooseTrim]
  split
  · exact Nat.min_le_right _ _
  · exact toNat_le_rat (clampTo_le_rat top _)

/-- The trim of a channel stays, and its threshold moves along. -/
theorem resultOf_shift (hrange : InRange settings)
    (h : ∀ trim ≤ settings.trimMax, level' trim = level trim + δ) (baseline deviceEff : ℚ) :
    resultOf settings level' baseline (deviceEff + δ) =
      (resultOf settings level baseline deviceEff).raise δ := by
  rw [resultOf, resultOf, regionOf_shift hrange h]
  have hlimit : (regionOf settings level baseline).trimMax ≤ settings.trimMax :=
    regionOf_trimMax_le baseline
  generalize regionOf settings level baseline = region at hlimit ⊢
  by_cases husable : region.isUsable = true
  · have htrim := (chooseTrim_le_rat region.midEff deviceEff region.slope settings.mid
      region.trimMax).trans hlimit
    have hchosen : chooseTrim (region.shift δ).midEff (deviceEff + δ) (region.shift δ).slope
        settings.mid (region.shift δ).trimMax =
          chooseTrim region.midEff deviceEff region.slope settings.mid region.trimMax :=
      chooseTrim_add ..
    rw [if_pos husable, if_pos (show (region.shift δ).isUsable = true from husable), hchosen]
    dsimp only
    rw [h _ htrim, add_sub_right_comm]
    rfl
  · rw [if_neg husable, if_neg (show ¬(region.shift δ).isUsable = true from husable)]
    rw [TrimResult.raise, add_right_comm]
    rfl

/-! ## The raise -/

theorem le_foldl_max {xs : List ℚ} {x a : ℚ} (h : x ≤ a ∨ x ∈ xs) : x ≤ xs.foldl max a := by
  induction xs generalizing a with
  | nil => simpa using h
  | cons y ys ih =>
    apply ih
    rcases h with hle | hmem
    · exact .inl (hle.trans (le_max_left a y))
    · rcases List.mem_cons.mp hmem with rfl | hmem
      · exact .inl (le_max_right a x)
      · exact .inr hmem

/-- The largest request, 0 when there is none. -/
def largestBump (bumps : List (Nat × ℚ)) : ℚ := (bumps.map (·.2)).foldl max 0

/-- Register value that covers the largest request, before it is kept within the register. -/
def wantedForBumps (constants : ThresholdConstants ℚ) (bumps : List (Nat × ℚ)) : ℚ :=
  constants.dac + ⌈largestBump bumps / constants.slope⌉ + 1

variable {constants : ThresholdConstants ℚ} {bumps : List (Nat × ℚ)} {thdacMax : Nat}

theorem largestBump_nonneg : 0 ≤ largestBump bumps := le_foldl_max (.inl le_rfl)

theorem le_largestBump {channel : Nat} {bump : ℚ} (h : (channel, bump) ∈ bumps) :
    bump ≤ largestBump bumps :=
  le_foldl_max (.inr (List.mem_map_of_mem h))

/-- A raise that fits the register is made in full. -/
theorem raisedForBumps_eq (hslope : 0 < constants.slope)
    (hfits : wantedForBumps constants bumps ≤ thdacMax) :
    (raisedForBumps constants bumps thdacMax : ℚ) = wantedForBumps constants bumps := by
  have hceil : 0 ≤ ⌈largestBump bumps / constants.slope⌉ :=
    Int.ceil_nonneg (div_nonneg largestBump_nonneg hslope.le)
  have hwanted : wantedForBumps constants bumps =
      ((constants.dac + ⌈largestBump bumps / constants.slope⌉ + 1 : ℤ) : ℚ) := by
    rw [wantedForBumps]
    push_cast
    rfl
  have hraised : raisedForBumps constants bumps thdacMax =
      toNat (min (wantedForBumps constants bumps) thdacMax) := by
    rw [wantedForBumps, ← Nat.cast_one]
    rfl
  rw [hraised, min_eq_left hfits, hwanted, toNat_intCast, ← Int.cast_natCast, Int.toNat_of_nonneg]
  omega

/-- A raise in full moves the response by the largest request at least. -/
theorem largestBump_le (hslope : 0 < constants.slope) :
    largestBump bumps ≤ constants.slope * (wantedForBumps constants bumps - constants.dac) := by
  have hceil := Int.le_ceil (largestBump bumps / constants.slope)
  calc
    largestBump bumps = constants.slope * (largestBump bumps / constants.slope) :=
      (mul_div_cancel₀ _ hslope.ne').symm
    _ ≤ constants.slope * (wantedForBumps constants bumps - constants.dac) := by
      rw [wantedForBumps]
      gcongr
      linarith

/-! ## Two passes -/

variable {σ : Type} {bench : Bench σ ℚ} {respond : Request → List Nat} {context again : Context ℚ}
  {dac raised : Nat}

/-- Between two register values the levels of all channels in use move by the same amount, whatever
their trim. -/
def MovesBy (bench : Bench σ ℚ) (respond : Request → List Nat) (settings : TrimSettings ℚ)
    (context : Context ℚ) (dac raised : Nat) (δ : ℚ) : Prop :=
  ∀ channel, context.InUse channel → ∀ trim ≤ settings.trimMax,
    levelAt bench respond context raised channel trim =
      levelAt bench respond context dac channel trim + δ

/-- The same device with the same baselines and the same channels in use. -/
structure Resumes (context again : Context ℚ) : Prop where
  spec : again.spec = context.spec
  baselines : again.baselines = context.baselines
  inUse : ∀ channel < context.spec.channels,
    again.mask.isMasked channel = context.mask.isMasked channel

theorem Resumes.inUse_iff (h : Resumes context again) {channel : Nat} :
    again.InUse channel ↔ context.InUse channel := by
  rw [Context.InUse, Context.InUse, h.spec]
  exact and_congr_right fun hinside ↦ by rw [h.inUse channel hinside]

theorem Resumes.levelAt (h : Resumes context again) (dac channel : Nat) :
    levelAt bench respond again dac channel = levelAt bench respond context dac channel := by
  funext trim
  rw [Trim.levelAt, Trim.levelAt, Context.channelKey, Context.channelKey, h.spec]

theorem Resumes.baseline (h : Resumes context again) (channel : Nat) :
    again.baseline channel = context.baseline channel := by
  rw [Context.baseline, Context.baseline, h.baselines]

theorem regionsAt_shift (hrange : InRange settings) (h : Resumes context again)
    (hmoves : MovesBy bench respond settings context dac raised δ) :
    regionsAt bench respond settings again raised =
      (regionsAt bench respond settings context dac).map (Option.map (Region.shift δ)) := by
  rw [regionsAt, regionsAt, List.map_map, h.spec]
  refine List.map_congr_left fun channel hmem ↦ ?_
  have hinside := List.mem_range.mp hmem
  rw [Function.comp_apply, regionAt, regionAt, h.inUse channel hinside]
  by_cases hmasked : context.mask.isMasked channel = true
  · rw [if_pos hmasked, if_pos hmasked]
    rfl
  · rw [if_neg hmasked, if_neg hmasked, Option.map_some, h.levelAt, h.baseline]
    exact congrArg some (regionOf_shift hrange
      (hmoves channel ⟨hinside, Bool.eq_false_iff.mpr hmasked⟩) _)

theorem resultAt_shift (hrange : InRange settings) (h : Resumes context again)
    (hmoves : MovesBy bench respond settings context dac raised δ) {channel : Nat}
    (hinUse : context.InUse channel) (deviceEff : ℚ) :
    resultAt bench respond settings again raised (deviceEff + δ) channel =
      (resultAt bench respond settings context dac deviceEff channel).raise δ := by
  rw [resultAt, resultAt, h.levelAt, h.baseline]
  exact resultOf_shift hrange (hmoves channel hinUse) _ _

theorem midEffs_shift (regions : List (Option (Region ℚ))) :
    midEffs (regions.map (Option.map (Region.shift δ))) = (midEffs regions).map (· + δ) := by
  induction regions with
  | nil => rfl
  | cons region regions ih =>
    cases region with
    | none => exact ih
    | some region => exact congrArg (List.cons (region.midEff + δ)) ih

/-! ## The re-entry -/

variable {constants : ThresholdConstants ℚ} {outcome : PassOutcome ℚ} {link : Link σ}
  {first : Run σ ℚ}

theorem optimize_run_of_fixable (hthreshold : context.threshold = some constants)
    (hfirst : (runPass bench settings constants.dac .first).run ⟨link, context⟩ =
      (.ok outcome, first))
    (hfixable : outcome.bumps.any (isFixable first.context.trims) = true)
    (hraised : raised = raisedForBumps constants outcome.bumps first.context.thdacMax) :
    (optimize bench settings).run ⟨link, context⟩ =
      (reenter bench settings constants raised).run first := by
  rw [optimize_run hthreshold, hfirst, hraised]
  exact if_pos hfixable

/-- What a re-entry at `raised` makes of a first pass that left no channel behind. -/
structure Repaired (context first final : Context ℚ) (raised : Nat) (δ : ℚ) : Prop where
  secondPass : final.secondPass = true
  thresholdDac : final.thresholdDac = raised
  inUse : ∀ channel, context.InUse channel → final.InUse channel
  isSome : ∀ channel, context.InUse channel → (first.trim channel).isSome = true
  /-- Slopes, ranges and best trims are those of the first pass. -/
  trim : ∀ channel, final.trim channel = (first.trim channel).map (TrimResult.raise δ)
  /-- Nothing is below its baseline but what has no usable response. -/
  aboveBaseline : ∀ channel result, final.trim channel = some result → result.trimMax ≠ 0 →
    0 ≤ result.eff

/-- What a first pass over a steady device leaves when it masks no channel and `δ` covers what it
asks for. -/
structure Covered (bench : Bench σ ℚ) (respond : Request → List Nat) (settings : TrimSettings ℚ)
    (context first : Context ℚ) (dac : Nat) (deviceEff δ : ℚ) : Prop where
  median : scalarMedian (midEffs (regionsAt bench respond settings context dac)) = some deviceEff
  inUse : ∀ channel, context.InUse channel → first.InUse channel
  trim : ∀ channel, context.InUse channel →
    first.trim channel = some (resultAt bench respond settings context dac deviceEff channel)
  eff : ∀ channel, context.InUse channel →
    (resultAt bench respond settings context dac deviceEff channel).trimMax ≠ 0 →
      0 ≤ (resultAt bench respond settings context dac deviceEff channel).eff + δ

variable {entries later : Journal} {between after : Context ℚ} {deviceEff realized : ℚ}

theorem PassRun.exists_covered
    (h : PassRun bench settings dac .first context (.ok outcome) entries between)
    (hsteady : bench.frontEnd.IsSteady respond) (hfits : context.Fits)
    (hinUse : ∀ channel, context.InUse channel → between.InUse channel)
    (hδ : largestBump outcome.bumps ≤ δ) :
    ∃ deviceEff, Covered bench respond settings context between dac deviceEff δ := by
  obtain ⟨deviceEff, hmedian, hleft⟩ := h.left hsteady hfits
  refine ⟨deviceEff, hmedian, hinUse, fun channel hchannel ↦ ?_, fun channel hchannel husable ↦ ?_⟩
  · cases hleft channel hchannel with
    | dropped _ _ hmasked =>
      exact Bool.noConfusion ((hinUse channel hchannel).2.symm.trans hmasked)
    | kept htrim => exact htrim
  · cases hleft channel hchannel with
    | dropped _ _ hmasked =>
      exact Bool.noConfusion ((hinUse channel hchannel).2.symm.trans hmasked)
    | kept _ _ hshort =>
      by_cases hnegative : (resultAt bench respond settings context dac deviceEff channel).eff < 0
      · have hbump := le_largestBump (hshort husable (lt_rat.mpr hnegative)).2
        linarith
      · have hnonneg : 0 ≤ largestBump outcome.bumps := largestBump_nonneg
        linarith

/-- Channels in use go on to the second pass, and no others. -/
theorem PassRun.resumes {pass : Pass}
    (h : PassRun bench settings dac pass context (.ok outcome) entries between)
    (hinUse : ∀ channel, context.InUse channel → between.InUse channel) :
    Resumes context (reentered between constants raised realized) := by
  refine ⟨h.spec, h.baselines, fun channel hinside ↦ ?_⟩
  cases hmasked : context.mask.isMasked channel with
  | false => exact (hinUse channel ⟨hinside, hmasked⟩).2
  | true =>
    rw [reentered, h.mask]
    by_contra hagain
    have hbefore := ChannelMask.isMasked_of_replay (Bool.eq_false_iff.mpr hagain)
    exact Bool.noConfusion (hbefore.symm.trans hmasked)

/-- A second pass is run on the same regions, moved, around a median that moves along. -/
theorem Covered.median_again (h : Covered bench respond settings context between dac deviceEff δ)
    (hrange : InRange settings) (hresumes : Resumes context again)
    (hmoves : MovesBy bench respond settings context dac raised δ) :
    scalarMedian (midEffs (regionsAt bench respond settings again raised)) =
      some (deviceEff + δ) := by
  rw [regionsAt_shift hrange hresumes hmoves, midEffs_shift, scalarMedian_map_add, h.median,
    Option.map_some]

/-- The second pass, from the context the first one left. -/
theorem PassRun.repaired {reached : PassOutcome ℚ}
    (second : PassRun bench settings raised .second (reentered between constants raised realized)
      (.ok reached) later after)
    (first : PassRun bench settings dac .first context (.ok outcome) entries between)
    (hsteady : bench.frontEnd.IsSteady respond) (hrange : InRange settings)
    (hfits : context.Fits) (hmoves : MovesBy bench respond settings context dac raised δ)
    (hcovered : Covered bench respond settings context between dac deviceEff δ) :
    Repaired context between after raised δ := by
  have hresumes : Resumes context (reentered between constants raised realized) :=
    first.resumes hcovered.inUse
  have hagain : (reentered between constants raised realized).Fits := first.fits hfits
  obtain ⟨_, hmedian, hleft⟩ := second.left hsteady hagain
  obtain rfl := Option.some.inj
    (hmedian.symm.trans (hcovered.median_again hrange hresumes hmoves))
  have hkept : ∀ channel, context.InUse channel → after.InUse channel ∧ after.trim channel =
      some ((resultAt bench respond settings context dac deviceEff channel).raise δ) := by
    intro channel hinUse
    have hchannel := hleft channel (hresumes.inUse_iff.mpr hinUse)
    rw [resultAt_shift hrange hresumes hmoves hinUse] at hchannel
    cases hchannel with
    | kept htrim hinUse => exact ⟨hinUse, htrim⟩
    | dropped husable hnegative =>
      -- below its baseline no channel with a usable response can be any more
      exact absurd (lt_rat.mp hnegative) (not_lt.mpr (hcovered.eff channel hinUse husable))
  have hnone : ∀ channel, ¬context.InUse channel → after.trim channel = none :=
    fun channel hout ↦ second.trim_eq_none hagain (mt hresumes.inUse_iff.mp hout)
  constructor
  case secondPass =>
    rw [second.replay]
    rfl
  case thresholdDac =>
    rw [second.replay]
    rfl
  case inUse =>
    exact fun channel hinUse ↦ (hkept channel hinUse).1
  case isSome =>
    intro channel hinUse
    rw [hcovered.trim channel hinUse]
    rfl
  case trim =>
    intro channel
    by_cases hinUse : context.InUse channel
    · rw [(hkept channel hinUse).2, hcovered.trim channel hinUse]
      rfl
    · rw [first.trim_eq_none hfits hinUse, hnone channel hinUse]
      rfl
  case aboveBaseline =>
    intro channel result hresult husable
    by_cases hinUse : context.InUse channel
    · rw [(hkept channel hinUse).2] at hresult
      obtain rfl := Option.some.inj hresult
      exact hcovered.eff channel hinUse husable
    · exact nomatch (hnone channel hinUse).symm.trans hresult

/-- A first pass that asked for a raise had a channel to ask for it. -/
theorem PassRun.exists_inUse {pass : Pass}
    (h : PassRun bench settings dac pass context (.ok outcome) entries after)
    (hfits : context.Fits) (hfixable : outcome.bumps.any (isFixable after.trims) = true) :
    ∃ channel, context.InUse channel := by
  obtain ⟨⟨channel, bump⟩, _, hfix⟩ := List.any_eq_true.mp hfixable
  refine ⟨channel, ?_⟩
  by_contra hout
  have htrim := h.trim_eq_none hfits hout
  rw [Context.trim] at htrim
  rw [isFixable, htrim] at hfix
  exact Bool.noConfusion hfix

theorem exists_realized {probe : Nat} {result : Except (CalibrationError ℚ) ℚ}
    (h : Threshold.RealizedRead bench dac context result entries)
    (hsteady : bench.frontEnd.IsSteady respond) (hfits : context.Fits)
    (hinUse : context.InUse probe) : ∃ realized, result = .ok realized := by
  cases h with
  | noProbe hprobe =>
    have hmem : probe ∈ context.mask.unmasked := by
      rw [ChannelMask.unmasked, List.mem_filter, List.mem_range, hfits, hinUse.2]
      exact ⟨hinUse.1, rfl⟩
    rw [List.head?_eq_none_iff.mp hprobe] at hmem
    exact absurd hmem List.not_mem_nil
  | read _ hlevel => exact ⟨_, hsteady.reads _ _ _ _ hlevel⟩

theorem reenter_ensures (constants : ThresholdConstants ℚ)
    (first : PassRun bench settings dac .first context (.ok outcome) entries between)
    (hsteady : bench.frontEnd.IsSteady respond) (hrange : InRange settings) (hfits : context.Fits)
    (hmoves : MovesBy bench respond settings context dac raised δ)
    (hcovered : Covered bench respond settings context between dac deviceEff δ)
    (hinUse : ∃ channel, context.InUse channel) :
    (reenter bench settings constants raised).Ensures between fun answer _ after ↦
      answer = .ok () ∧ Repaired context between after raised δ := by
  obtain ⟨probe, hprobe⟩ := hinUse
  have hresumes : ∀ realized, Resumes context (reentered between constants raised realized) :=
    fun _ ↦ first.resumes hcovered.inUse
  refine Stage.ensures_bind ((Threshold.measureRealized_ensures between).mono ?_)
  rintro result _ _ ⟨rfl, hrealized⟩
  obtain ⟨realized, rfl⟩ :=
    exists_realized hrealized hsteady (first.fits hfits) (hcovered.inUse probe hprobe)
  refine Stage.ensures_bind (Stage.ensures_update ?_)
  refine Stage.ensures_bind ((runPass_ensures _).mono ?_)
  rintro (cause | reached) later after hsecond
  · have hnone := hsecond.regionsAt_of_error hsteady
    exact nomatch hnone.symm.trans (hcovered.median_again hrange (hresumes realized) hmoves)
  · exact Stage.ensures_pure
      ⟨rfl, hsecond.repaired first hsteady hrange hfits hmoves hcovered⟩

/-- A re-entry repairs what it is made for. When the first pass masks no channel, the register is
raised in full, and the levels move together by no less than the response promises, the second pass
masks no channel either, keeps every trim, and leaves every channel with a usable response on its
baseline or above. -/
theorem reentry_repairs {settings : Settings ℚ} (hsteady : bench.frontEnd.IsSteady respond)
    (hvalid : settings.validate context.spec = .ok ()) (hfits : context.Fits)
    (hthreshold : context.threshold = some constants) (hslope : 0 < constants.slope)
    (hfirst : (runPass bench settings.trim constants.dac .first).run ⟨link, context⟩ =
      (.ok outcome, first))
    (hinUse : ∀ channel, context.InUse channel → first.context.InUse channel)
    (hfixable : outcome.bumps.any (isFixable first.context.trims) = true)
    (hfull : wantedForBumps constants outcome.bumps ≤ context.thdacMax)
    (hraised : raised = raisedForBumps constants outcome.bumps context.thdacMax)
    (hmoves : MovesBy bench respond settings.trim context constants.dac raised δ)
    (hδ : constants.slope * ((raised : ℚ) - constants.dac) ≤ δ) :
    ∃ final, (optimize bench settings.trim).run ⟨link, context⟩ = (.ok (), final) ∧
      Repaired context first.context final.context raised δ := by
  have hrange : InRange settings.trim := by
    have hvalid := Settings.validFor_of_validate hvalid
    have hlow := hvalid.low_lt_mid
    have hmid := hvalid.mid_lt_high
    have hhigh := hvalid.high_le_trimMax
    exact ⟨by omega, by omega⟩
  have hpass : ∃ entries, PassRun bench settings.trim constants.dac .first context (.ok outcome)
      entries first.context := by
    obtain ⟨entries, _, hpass⟩ := runPass_ensures context link
    rw [hfirst] at hpass
    exact ⟨entries, hpass⟩
  obtain ⟨entries, hpass⟩ := hpass
  have hcover : largestBump outcome.bumps ≤ δ := by
    refine (largestBump_le hslope).trans ?_
    rw [← raisedForBumps_eq hslope hfull, ← hraised]
    exact hδ
  obtain ⟨deviceEff, hcovered⟩ := hpass.exists_covered hsteady hfits hinUse hcover
  rw [optimize_run_of_fixable hthreshold hfirst hfixable (hpass.thdacMax.symm ▸ hraised)]
  obtain ⟨later, _, hanswer, hrepaired⟩ := reenter_ensures constants hpass hsteady hrange hfits
    hmoves hcovered (hpass.exists_inUse hfits hfixable) first.link
  exact ⟨_, Prod.ext hanswer rfl, hrepaired⟩

/-- Two channels four counts short at 25 are two counts above their baselines at 28. -/
theorem reentry_repairs_short :
    (Exact.shortFirst.1 = .ok Exact.shortOutcome ∧
      raisedForBumps Exact.shortConstants Exact.shortOutcome.bumps Exact.shortContext.thdacMax =
        28) ∧
      ∃ final, (optimize Exact.shortBench Exact.settings.trim).run ⟨.new (), Exact.shortContext⟩ =
          (.ok (), final) ∧
        Repaired Exact.shortContext Exact.shortFirst.2.context final.context 28 6 := by
  have hanswer : Exact.shortFirst.1 = .ok Exact.shortOutcome := by cbv
  have hraised : raisedForBumps Exact.shortConstants Exact.shortOutcome.bumps
      Exact.shortContext.thdacMax = 28 := by cbv
  have hmask : Exact.shortFirst.2.context.mask = Exact.shortContext.mask := by cbv
  have hspec : Exact.shortFirst.2.context.spec = Exact.shortContext.spec := by cbv
  have hwanted : wantedForBumps Exact.shortConstants Exact.shortOutcome.bumps = 28 := by cbv
  have hmoves : ∀ channel < 2, ∀ trim < 5,
      levelAt Exact.shortBench Exact.shortModel.respond Exact.shortContext 28 channel trim =
        levelAt Exact.shortBench Exact.shortModel.respond Exact.shortContext 25 channel trim +
          6 := by
    decide +kernel
  refine ⟨⟨hanswer, hraised⟩, reentry_repairs (LinearModel.isSteady rfl) (by cbv) rfl rfl
    (by norm_num [Exact.shortConstants]) (Prod.ext hanswer rfl) ?_ (by cbv) ?_ hraised.symm ?_ ?_⟩
  · intro channel hinUse
    rw [Context.InUse, hmask, hspec]
    exact hinUse
  · rw [hwanted]
    norm_num [Exact.shortContext, Context.new]
  · exact fun channel hinUse trim htrim ↦ hmoves channel hinUse.1 trim (Nat.lt_succ_of_le htrim)
  · norm_num [Exact.shortConstants]

end Trim

end ThresholdTrim
