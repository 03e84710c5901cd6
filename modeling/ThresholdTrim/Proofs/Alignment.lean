import ThresholdTrim.Proofs.Reentry
import ThresholdTrim.Proofs.ShrinkSearch

/-!
# Channels line up

The purpose of the trims, in exact arithmetic. A channel that responds linearly to its trim has its
whole range for a region, whatever the sign of its slope. The trim chosen from it is the one at
which the line comes closest to the device median, for two reasons: rounding moves the point where
the line meets the median by half a step at most, and clamping moves an integer towards every trim
in range (`abs_clamp_sub_le`). So no trim of the range would have brought the channel closer, and
unless the median is out of its reach the channel ends within half a step of it.

All channels that are in use when a pass ends are lined up in this way (`Trim.pass_lines_up`).
-/

namespace ThresholdTrim

open Scalar Statistics Sampler

/-! ## The nearest trim -/

/-- Rounding gives an integer, and moves by half a step at most. -/
theorem exists_round_eq (x : ℚ) : ∃ n : ℤ, Scalar.round x = n ∧ |x - n| ≤ 1 / 2 := by
  by_cases hx : 0 ≤ x
  · refine ⟨⌊x + 1 / 2⌋, ?_, abs_le.mpr ⟨?_, ?_⟩⟩
    · exact if_pos hx
    · have hfloor := Int.floor_le (x + 1 / 2)
      linarith
    · have hfloor := Int.lt_floor_add_one (x + 1 / 2)
      linarith
  · refine ⟨⌈x - 1 / 2⌉, ?_, abs_le.mpr ⟨?_, ?_⟩⟩
    · exact if_neg hx
    · have hceil := Int.ceil_lt_add_one (x - 1 / 2)
      linarith
    · have hceil := Int.le_ceil (x - 1 / 2)
      linarith

theorem toNat_clampTo_intCast (top : ℕ) (n : ℤ) :
    (toNat (clampTo top (n : ℚ)) : ℤ) = max 0 (min n top) := by
  have hzero : lt (n : ℚ) (ofCount 0) = decide (n < 0) := by
    refine decide_eq_decide.mpr ?_
    change (n : ℚ) < ((0 : ℕ) : ℚ) ↔ n < 0
    exact_mod_cast Iff.rfl
  have htop : lt (ofCount top) (n : ℚ) = decide ((top : ℤ) < n) := by
    refine decide_eq_decide.mpr ?_
    change ((top : ℕ) : ℚ) < n ↔ (top : ℤ) < n
    exact_mod_cast Iff.rfl
  have hcount : ∀ m : ℕ, toNat (ofCount m : ℚ) = m := fun m ↦ toNat_intCast m
  rw [clampTo, hzero, htop]
  by_cases hnegative : n < 0
  · rw [if_pos (decide_eq_true hnegative), hcount]
    omega
  · rw [if_neg (by simpa using hnegative)]
    by_cases habove : (top : ℤ) < n
    · rw [if_pos (decide_eq_true habove), hcount]
      omega
    · rw [if_neg (by simpa using habove), toNat_intCast]
      omega

/-- Of the integers in a range, none is closer to `x` than the clamped nearest integer. -/
theorem abs_clamp_sub_le {n top u : ℤ} {x : ℚ} (h : |x - n| ≤ 1 / 2) (hu : 0 ≤ u)
    (htop : u ≤ top) : |((max 0 (min n top) : ℤ) : ℚ) - x| ≤ |(u : ℚ) - x| := by
  obtain ⟨hlow, hhigh⟩ := abs_le.mp h
  rcases lt_trichotomy u (max 0 (min n top)) with hlt | heq | hgt
  · -- the clamped integer was not moved up past `u`, so it lies between `u` and the nearest one
    have hn : max 0 (min n top) ≤ n := by omega
    have hgap : (u : ℚ) + 1 ≤ (max 0 (min n top) : ℤ) := by exact_mod_cast hlt
    have hn : ((max 0 (min n top) : ℤ) : ℚ) ≤ n := by exact_mod_cast hn
    rw [abs_of_nonpos (by linarith : (u : ℚ) - x ≤ 0), abs_le]
    constructor <;> linarith
  · rw [heq]
  · have hn : n ≤ max 0 (min n top) := by omega
    have hgap : ((max 0 (min n top) : ℤ) : ℚ) + 1 ≤ u := by exact_mod_cast hgt
    have hn : (n : ℚ) ≤ (max 0 (min n top) : ℤ) := by exact_mod_cast hn
    rw [abs_of_nonneg (by linarith : 0 ≤ (u : ℚ) - x), abs_le]
    constructor <;> linarith

namespace Trim

/-- A trim up to `high` that brings the effective threshold as close to a target as the range
allows. -/
structure IsClosest (eff : ℕ → ℚ) (target : ℚ) (high trim : ℕ) : Prop where
  le : trim ≤ high
  closest : ∀ other ≤ high, |eff trim - target| ≤ |eff other - target|

section

variable {eff : ℕ → ℚ} {c s target : ℚ} {mid high trim : ℕ}

/-- The distance to the target, in steps from where the line meets it. -/
theorem abs_line_sub (hline : ∀ trim, eff trim = c + s * trim) (hs : s ≠ 0) (trim : ℕ) :
    |eff trim - target| = |s| * |(trim : ℚ) - (target - c) / s| := by
  rw [← abs_mul, hline, mul_sub, mul_div_cancel₀ _ hs]
  ring_nf

/-- On a linear response the chosen trim is the closest one. -/
theorem isClosest_chooseTrim (hline : ∀ trim, eff trim = c + s * trim) (hs : s ≠ 0) :
    IsClosest eff target high (chooseTrim (eff mid) target s mid high) := by
  refine ⟨chooseTrim_le_rat .., fun other hother ↦ ?_⟩
  obtain ⟨shift, hshift, hhalf⟩ := exists_round_eq ((eff mid - target) / s)
  have hchosen : (chooseTrim (eff mid) target s mid high : ℤ) =
      max 0 (min (mid - shift : ℤ) high) := by
    rw [← toNat_clampTo_intCast]
    push_cast
    rw [← hshift]
    rfl
  -- the line meets the target at `(target - c) / s`
  have hmeets : (target - c) / s - ((mid - shift : ℤ) : ℚ) =
      -((eff mid - target) / s - shift) := by
    rw [hline]
    push_cast
    field_simp
    ring
  have hnearest : |(target - c) / s - ((mid - shift : ℤ) : ℚ)| ≤ 1 / 2 := by
    rw [hmeets, abs_neg]
    exact hhalf
  have hclamp := abs_clamp_sub_le hnearest (Int.natCast_nonneg other) (Int.ofNat_le.mpr hother)
  rw [← hchosen, Int.cast_natCast, Int.cast_natCast] at hclamp
  rw [abs_line_sub hline hs, abs_line_sub hline hs]
  exact mul_le_mul_of_nonneg_left hclamp (abs_nonneg s)

/-- A target within reach of the channel is met to half a step. -/
theorem IsClosest.abs_sub_le (h : IsClosest eff target high trim)
    (hline : ∀ trim, eff trim = c + s * trim) (hs : s ≠ 0)
    (hreach : target ∈ Set.uIcc (eff 0) (eff high)) : |eff trim - target| ≤ |s| / 2 := by
  have hsteps : 0 ≤ (target - c) / s ∧ (target - c) / s ≤ high := by
    rw [Set.mem_uIcc, hline, hline, Nat.cast_zero, mul_zero, add_zero] at hreach
    rcases lt_or_gt_of_ne hs with hs | hs
    · rw [le_div_iff_of_neg hs, div_le_iff_of_neg hs]
      rcases hreach with ⟨hlow, hhigh⟩ | ⟨hlow, hhigh⟩
      · have hfall : s * high ≤ 0 := mul_nonpos_of_nonpos_of_nonneg hs.le high.cast_nonneg
        constructor <;> linarith
      · constructor <;> linarith
    · rw [le_div_iff₀ hs, div_le_iff₀ hs]
      rcases hreach with ⟨hlow, hhigh⟩ | ⟨hlow, hhigh⟩
      · constructor <;> linarith
      · have hrise : 0 ≤ s * high := mul_nonneg hs.le high.cast_nonneg
        constructor <;> linarith
  -- the closest trim does no worse than the integer nearest to where the line meets the target
  obtain ⟨n, _, hhalf⟩ := exists_round_eq ((target - c) / s)
  obtain ⟨hlow, hhigh⟩ := abs_le.mp hhalf
  -- an integer within a half of a range whose ends are integers is in the range
  have hn : 0 ≤ n ∧ n ≤ high := by
    have hlow : (-1 : ℚ) < n := by linarith
    have hhigh : (n : ℚ) < high + 1 := by linarith
    have hlow : -1 < n := by exact_mod_cast hlow
    have hhigh : n < high + 1 := by exact_mod_cast hhigh
    omega
  have hcast : ((n.toNat : ℕ) : ℚ) = n := by
    exact_mod_cast Int.toNat_of_nonneg hn.1
  calc
    |eff trim - target| ≤ |eff n.toNat - target| := h.closest _ (by omega)
    _ = |s| * |(n : ℚ) - (target - c) / s| := by rw [abs_line_sub hline hs, hcast]
    _ ≤ |s| * (1 / 2) := by
      rw [abs_sub_comm]
      exact mul_le_mul_of_nonneg_left hhalf (abs_nonneg s)
    _ = |s| / 2 := by ring

/-- What a step either way does not bring closer to zero is within half a step of it. -/
theorem abs_le_half_step {x step : ℚ} (hstep : step ≠ 0) (hdown : |x| ≤ |x - step|)
    (hup : |x| ≤ |x + step|) : |x| ≤ |step| / 2 := by
  have hdown := sq_le_sq.mpr hdown
  have hup := sq_le_sq.mpr hup
  have hproduct : |x * step| ≤ step ^ 2 / 2 := by
    rw [abs_le]
    constructor <;> linarith
  rw [abs_mul, ← sq_abs step] at hproduct
  refine le_of_mul_le_mul_right ?_ (abs_pos.mpr hstep)
  linarith

/-- A closest trim inside the range meets the target to half a step, since neither of its
neighbours is closer. -/
theorem IsClosest.abs_sub_le_of_inside (h : IsClosest eff target high trim)
    (hline : ∀ trim, eff trim = c + s * trim) (hs : s ≠ 0) (hlow : 0 < trim)
    (hhigh : trim < high) : |eff trim - target| ≤ |s| / 2 := by
  have hdown : eff (trim - 1) - target = eff trim - target - s := by
    rw [hline, hline, Nat.cast_pred hlow]
    ring
  have hup : eff (trim + 1) - target = eff trim - target + s := by
    rw [hline, hline, Nat.cast_succ]
    ring
  refine abs_le_half_step hs ?_ ?_
  · rw [← hdown]
    exact h.closest (trim - 1) (by omega)
  · rw [← hup]
    exact h.closest (trim + 1) hhigh

/-- On a line through `c` at mid no trim of the range comes closer to the target `d` than the chosen
one, wherever mid is. Away from the ends of the range it misses by half a step at most. -/
theorem chooseTrim_closest (c d : ℚ) (hs : s ≠ 0) (mid top : ℕ) :
    chooseTrim c d s mid top ≤ top ∧
      (∀ trim ≤ top,
        |c + s * (((chooseTrim c d s mid top : ℕ) : ℚ) - mid) - d| ≤
          |c + s * ((trim : ℚ) - mid) - d|) ∧
      (0 < chooseTrim c d s mid top → chooseTrim c d s mid top < top →
        |c + s * (((chooseTrim c d s mid top : ℕ) : ℚ) - mid) - d| ≤ |s| / 2) := by
  let eff : ℕ → ℚ := fun trim ↦ c + s * ((trim : ℚ) - mid)
  have hline : ∀ trim, eff trim = (c - s * mid) + s * trim := by
    intro trim
    change c + s * ((trim : ℚ) - mid) = _
    ring
  have hmid : eff mid = c := by
    change c + s * ((mid : ℚ) - mid) = c
    ring
  have hclosest : IsClosest eff d top (chooseTrim (eff mid) d s mid top) :=
    isClosest_chooseTrim hline hs
  rw [hmid] at hclosest
  exact ⟨hclosest.le, hclosest.closest, hclosest.abs_sub_le_of_inside hline hs⟩

/-- A threshold that falls with the trim, and a mid above the range. -/
theorem chooseTrim_closest_falling :
    ((-4 : ℚ) ≠ 0 ∧ chooseTrim (10 : ℚ) (95 / 2) (-4) 30 25 = 21) ∧
      |(10 : ℚ) + (-4) * (((21 : ℕ) : ℚ) - (30 : ℕ)) - 95 / 2| ≤ |(-4 : ℚ)| / 2 := by
  have hs : (-4 : ℚ) ≠ 0 := by decide +kernel
  have htrim : chooseTrim (10 : ℚ) (95 / 2) (-4) 30 25 = 21 := by decide +kernel
  obtain ⟨_, _, hinside⟩ := chooseTrim_closest 10 (95 / 2) hs 30 25
  rw [htrim] at hinside
  exact ⟨⟨hs, htrim⟩, hinside (by decide) (by decide)⟩

end

/-! ## Linear responses -/

/-- Trim points in order and within the register, and a tolerance that two equal slopes meet. -/
structure Orderly (settings : TrimSettings ℚ) : Prop where
  low_lt_mid : settings.low < settings.mid
  mid_lt_high : settings.mid < settings.high
  high_le_trimMax : settings.high ≤ settings.trimMax
  tolerance_nonneg : 0 ≤ settings.slopeTolerance

variable {settings : TrimSettings ℚ} {trim : ℕ}

theorem Orderly.min_eq (h : Orderly settings) :
    min settings.high settings.trimMax = settings.high :=
  Nat.min_eq_left h.high_le_trimMax

/-- A pass sets no trim above the high point. -/
theorem Orderly.passTrim_le (h : Orderly settings) (htrim : PassTrim settings trim) :
    trim ≤ settings.high := by
  have hpoint : ∀ {trim}, trim ∈ highPoints settings.mid (min settings.high settings.trimMax) →
      trim ≤ settings.high :=
    fun hmem ↦ (le_of_mem_highPoints hmem).trans (Nat.min_le_left _ _)
  cases htrim with
  | low => exact (h.low_lt_mid.trans h.mid_lt_high).le
  | mid => exact h.mid_lt_high.le
  | high hmem => exact hpoint hmem
  | chosen _ _ _ hmem => exact (chooseTrim_le_rat ..).trans (hpoint hmem)

theorem line_slope {c s : ℚ} {low high : ℕ} (h : low < high) :
    (c + s * high - (c + s * low)) / ofCount (high - low) = s := by
  have hgap : (0 : ℚ) < (high : ℚ) - low := by
    rw [sub_pos]
    exact_mod_cast h
  have hcount : (ofCount (high - low) : ℚ) = (high : ℚ) - low := Nat.cast_sub h.le
  rw [hcount, div_eq_iff hgap.ne']
  ring

/-- A slope of a count at least can be inverted. -/
theorem minSlope_le {s : ℤ} (hs : s ≠ 0) : (minSlope : ℚ) ≤ |(s : ℚ)| := by
  have hone : (1 : ℚ) ≤ |(s : ℚ)| := by exact_mod_cast Int.one_le_abs hs
  refine le_trans ?_ hone
  change ((1 : ℕ) : ℚ) / ((1000000 : ℕ) : ℚ) ≤ 1
  norm_num

/-- The region of a line is its whole range, found at once. -/
theorem regionOf_line (h : Orderly settings) {level : ℕ → ℚ} {a s : ℤ}
    (hlevel : ∀ trim, level trim = a + s * trim) (hs : s ≠ 0) (baseline : ℚ) :
    regionOf settings level baseline =
      ⟨s, settings.high, level settings.mid - baseline, 0⟩ := by
  have hrange : ¬(settings.mid ≤ settings.low ∨
      min settings.high settings.trimMax ≤ settings.mid) := by
    rw [h.min_eq]
    have hlow := h.low_lt_mid
    have hhigh := h.mid_lt_high
    omega
  have hslope : ∀ {low high : ℕ}, low < high →
      (level high - baseline - (level low - baseline)) / ofCount (high - low) = (s : ℚ) := by
    intro low high hlt
    rw [sub_sub_sub_cancel_right, hlevel, hlevel]
    exact line_slope hlt
  have hagree : slopesAgree (s : ℚ) s settings.slopeTolerance = true := by
    refine le_rat.mpr ?_
    change |(s : ℚ) - s| ≤ settings.slopeTolerance
    rw [sub_self, abs_zero]
    exact h.tolerance_nonneg
  have hmean : ((s : ℚ) + s) / ofCount 2 = s := by
    change ((s : ℚ) + s) / ((2 : ℕ) : ℚ) = s
    push_cast
    ring
  have husable : (!isFinite (s : ℚ) || lt (Scalar.abs (s : ℚ)) minSlope) = false :=
    decide_eq_false (not_lt.mpr (minSlope_le hs))
  rw [regionOf_eq_ite, if_neg hrange, h.min_eq, highPoints_eq_cons h.mid_lt_high, searchHigh_cons,
    hslope h.low_lt_mid, hslope h.mid_lt_high, if_pos hagree, hmean, Region.upTo,
    if_neg (Bool.eq_false_iff.mp husable)]

/-- The trim of a line is the closest one to the device threshold. -/
theorem resultOf_line (h : Orderly settings) {level : ℕ → ℚ} {a s : ℤ}
    (hlevel : ∀ trim, level trim = a + s * trim) (hs : s ≠ 0) (baseline deviceEff : ℚ) :
    ∃ trim, IsClosest (fun trim ↦ level trim - baseline) deviceEff settings.high trim ∧
      resultOf settings level baseline deviceEff =
        ⟨s, settings.high, trim, level trim - baseline, level trim⟩ := by
  have hline : ∀ trim, level trim - baseline = (a - baseline) + s * trim := by
    intro trim
    rw [hlevel]
    ring
  have hclosest : IsClosest (fun trim ↦ level trim - baseline) deviceEff settings.high
      (chooseTrim (level settings.mid - baseline) deviceEff s settings.mid settings.high) :=
    isClosest_chooseTrim hline (by exact_mod_cast hs)
  refine ⟨_, hclosest, ?_⟩
  have husable : Region.isUsable
      (⟨s, settings.high, level settings.mid - baseline, 0⟩ : Region ℚ) = true := by
    have hpos : 0 < settings.high := Nat.zero_lt_of_lt h.mid_lt_high
    rw [Region.isUsable, decide_eq_true hpos, Bool.true_and]
    exact le_rat.mpr (minSlope_le hs)
  rw [resultOf, regionOf_line h hlevel hs]
  exact if_pos husable

/-! ## A pass over a linear device -/

variable {σ : Type} {bench : Bench σ ℚ} {context after : Context ℚ} {dac channel : ℕ}
  {pass : Pass} {a s : ℕ → ℤ}

/-- The channels in use never fail at the trims up to the high point, and their medians lie on a
line for each channel. The batches may differ from call to call. -/
structure RespondsLinearly (bench : Bench σ ℚ) (settings : TrimSettings ℚ) (context : Context ℚ)
    (dac : ℕ) (a s : ℕ → ℤ) : Prop where
  slope_ne_zero : ∀ channel, context.InUse channel → s channel ≠ 0
  answer : ∀ channel, context.InUse channel → ∀ trim ≤ settings.high, ∀ state, ∃ batch m,
    (bench.frontEnd.acquire ⟨context.channelKey channel, .threshold dac trim,
      max bench.sampling.sampleCount 1⟩ state).1 = .ok batch ∧
    median batch = some m ∧ (m : ℤ) = a channel + s channel * trim

/-- Levels of a linear device. -/
def lineLevel (a s : ℕ → ℤ) (channel trim : ℕ) : ℚ := a channel + s channel * trim

theorem lineLevel_eq (a s : ℕ → ℤ) (channel trim : ℕ) :
    lineLevel a s channel trim = a channel + s channel * trim :=
  rfl

/-- Effective thresholds of a linear device. -/
def lineEff (context : Context ℚ) (a s : ℕ → ℤ) (channel trim : ℕ) : ℚ :=
  lineLevel a s channel trim - (context.baseline channel).median

/-- Regions of a linear device: the whole range of each channel in use. -/
def lineRegions (settings : TrimSettings ℚ) (context : Context ℚ) (a s : ℕ → ℤ) :
    List (Option (Region ℚ)) :=
  (List.range context.spec.channels).map fun channel ↦
    if context.mask.isMasked channel then none
    else some ⟨s channel, settings.high, lineEff context a s channel settings.mid, 0⟩

theorem RespondsLinearly.hasLevels (h : RespondsLinearly bench settings context dac a s)
    (horderly : Orderly settings) : HasLevels bench settings context dac (lineLevel a s) := by
  intro channel hinUse trim htrim
  refine Bench.reads_of_median fun state ↦ ?_
  obtain ⟨batch, m, hbatch, hmedian, hm⟩ :=
    h.answer channel hinUse trim (horderly.passTrim_le htrim) state
  refine ⟨batch, m, hbatch, hmedian, ?_⟩
  change (m : ℚ) = a channel + s channel * trim
  exact_mod_cast hm

theorem RespondsLinearly.regionsBy_eq (h : RespondsLinearly bench settings context dac a s)
    (horderly : Orderly settings) :
    regionsBy settings context (lineLevel a s) = lineRegions settings context a s := by
  refine List.map_congr_left fun channel hmem ↦ ?_
  rw [regionBy]
  split
  · rfl
  · rename_i hmasked
    have hinUse : context.InUse channel :=
      ⟨List.mem_range.mp hmem, Bool.eq_false_iff.mpr hmasked⟩
    exact congrArg some (regionOf_line horderly (lineLevel_eq a s channel)
      (h.slope_ne_zero channel hinUse) _)

/-- What a pass makes of a linear channel: it is lined up with the device, or it lies below its
baseline where it would be, and is masked. -/
structure LinedUp (settings : TrimSettings ℚ) (context after : Context ℚ) (a s : ℕ → ℤ)
    (deviceEff : ℚ) (channel trim : ℕ) : Prop where
  closest : IsClosest (lineEff context a s channel) deviceEff settings.high trim
  half_step : deviceEff ∈ Set.uIcc (lineEff context a s channel 0)
      (lineEff context a s channel settings.high) →
    |lineEff context a s channel trim - deviceEff| ≤ |(s channel : ℚ)| / 2
  left : after.InUse channel ∧ after.trim channel = some ⟨s channel, settings.high, trim,
      lineEff context a s channel trim, lineLevel a s channel trim⟩ ∨
    after.mask.isMasked channel = true ∧ lineEff context a s channel trim < 0

theorem PassRun.linedUp {outcome : PassOutcome ℚ} {entries : Journal}
    (hrun : PassRun bench settings dac pass context (.ok outcome) entries after)
    (h : RespondsLinearly bench settings context dac a s) (horderly : Orderly settings)
    (hfits : context.Fits) :
    ∃ deviceEff, scalarMedian (midEffs (lineRegions settings context a s)) = some deviceEff ∧
      after.mid = some (midOf (lineRegions settings context a s) deviceEff) ∧
      ∀ channel, context.InUse channel →
        ∃ trim, LinedUp settings context after a s deviceEff channel trim := by
  obtain ⟨deviceEff, hmedian, hmid, hleft⟩ := hrun.left_of_levels (h.hasLevels horderly) hfits
  rw [h.regionsBy_eq horderly] at hmedian hmid
  refine ⟨deviceEff, hmedian, hmid, fun channel hinUse ↦ ?_⟩
  have hs := h.slope_ne_zero channel hinUse
  have hline : ∀ trim, lineEff context a s channel trim =
      (a channel - (context.baseline channel).median) + s channel * trim := by
    intro trim
    rw [lineEff, lineLevel]
    ring
  obtain ⟨trim, hclosest, hresult⟩ := resultOf_line horderly (lineLevel_eq a s channel) hs
    (context.baseline channel).median deviceEff
  have hchannel := hleft channel hinUse
  rw [hresult] at hchannel
  refine ⟨trim, hclosest, hclosest.abs_sub_le hline (by exact_mod_cast hs), ?_⟩
  cases hchannel with
  | kept htrim hinUse => exact .inl ⟨hinUse, htrim⟩
  | dropped _ hnegative hmasked => exact .inr ⟨hmasked, lt_rat.mp hnegative⟩

/-- The regions of a linear device have a median as soon as a channel is in use. -/
theorem exists_median_lineRegions (hinUse : ∃ channel, context.InUse channel) :
    ∃ deviceEff, scalarMedian (midEffs (lineRegions settings context a s)) = some deviceEff := by
  obtain ⟨channel, hinside, hunmasked⟩ := hinUse
  have hmem : lineEff context a s channel settings.mid ∈
      midEffs (lineRegions settings context a s) := by
    have hregion : some ⟨s channel, settings.high, lineEff context a s channel settings.mid, 0⟩ ∈
        lineRegions settings context a s := by
      refine List.mem_map.mpr ⟨channel, List.mem_range.mpr hinside, ?_⟩
      rw [if_neg (Bool.eq_false_iff.mp hunmasked)]
    exact List.mem_filterMap.mpr ⟨_, List.mem_map.mpr ⟨_, hregion, rfl⟩, rfl⟩
  exact exists_scalarMedian (List.ne_nil_of_mem hmem)

/-- A pass over a linear device finds the whole range of each channel in use, and lines up the
channels with their median as well as their trims allow. -/
theorem pass_lines_up (horderly : Orderly settings) (hfits : context.Fits)
    (h : RespondsLinearly bench settings context dac a s) (pass : Pass) (link : Link σ) :
    (((List.range context.spec.channels).mapM (channelRegion bench settings dac)).run
        ⟨link, cleared context⟩).1 = .ok (lineRegions settings context a s) ∧
      ((∃ channel, context.InUse channel) → ∃ outcome final deviceEff,
        (runPass bench settings dac pass).run ⟨link, context⟩ = (.ok outcome, final) ∧
        scalarMedian (midEffs (lineRegions settings context a s)) = some deviceEff ∧
        final.context.mid = some (midOf (lineRegions settings context a s) deviceEff) ∧
        (∀ channel, final.context.InUse channel → context.InUse channel) ∧
        ∀ channel, context.InUse channel →
          ∃ trim, LinedUp settings context final.context a s deviceEff channel trim) := by
  constructor
  · have hsearches : ((List.range context.spec.channels).mapM
        (channelRegion bench settings dac)).Yields (cleared context) _ :=
      Stage.yields_mapM channelRegion_yields _
    obtain ⟨_, _, regions, hanswer, hsearch⟩ := hsearches link
    obtain ⟨_, rfl⟩ := regions_eq_regionsBy hsearch (h.hasLevels horderly)
    rw [hanswer, h.regionsBy_eq horderly]
  · intro hinUse
    have hpass : (runPass bench settings dac pass).Ensures context _ := runPass_ensures context
    obtain ⟨_, _, hrun⟩ := hpass link
    generalize (runPass bench settings dac pass).run ⟨link, context⟩ = run at hrun ⊢
    obtain ⟨cause | outcome, final⟩ := run
    · -- without regions there would be no channel in use
      have hnone := PassRun.regionsBy_of_error hrun (h.hasLevels horderly)
      rw [h.regionsBy_eq horderly] at hnone
      obtain ⟨_, hmedian⟩ := exists_median_lineRegions hinUse
      exact nomatch hnone.symm.trans hmedian
    · obtain ⟨deviceEff, hmedian, hmid, hchannels⟩ := PassRun.linedUp hrun h horderly hfits
      have hbefore : ∀ channel, final.context.InUse channel → context.InUse channel := by
        rintro channel ⟨hinside, hunmasked⟩
        rw [PassRun.mask hrun] at hunmasked
        rw [PassRun.spec hrun] at hinside
        exact ⟨hinside, ChannelMask.isMasked_of_replay hunmasked⟩
      exact ⟨outcome, final, deviceEff, rfl, hmedian, hmid, hbefore, hchannels⟩

end Trim

namespace Exact

/-- The first channel rises with its trim, the second one falls. -/
def crossedLevel (channel trim : ℕ) : ℕ := if channel = 0 then 110 + 2 * trim else 123 - 3 * trim

def crossedBench : Bench Unit ℚ where
  sampling := settings.sampling
  frontEnd :=
    { acquire := fun request _ ↦
        (.ok [crossedLevel request.channel.channel request.setting.trim], ())
      write := fun _ _ _ ↦ (.ok (), ()) }

def crossedContext : Context ℚ :=
  { Context.new spec 200 2 with baselines := [⟨100, 1, 0⟩, ⟨100, 1, 0⟩] }

theorem crossed_respondsLinearly :
    Trim.RespondsLinearly crossedBench settings.trim crossedContext 25
      (fun channel ↦ if channel = 0 then 110 else 123)
      (fun channel ↦ if channel = 0 then 2 else -3) where
  slope_ne_zero channel _ := by split <;> decide
  answer channel _ trim htrim state := by
    have hmedian : median [crossedLevel channel trim] = some (crossedLevel channel trim) := by
      simp [median, medianBy]
    refine ⟨_, _, rfl, hmedian, ?_⟩
    have htrim : trim ≤ 4 := htrim
    rw [crossedLevel]
    split <;> omega

end Exact

/-- Both channels of the pair are lined up, from opposite sides. -/
theorem Trim.pass_lines_up_crossed :
    (Orderly Exact.settings.trim ∧ Exact.crossedContext.Fits) ∧
      ∃ outcome final deviceEff,
        (runPass Exact.crossedBench Exact.settings.trim 25 .first).run
          ⟨.new (), Exact.crossedContext⟩ = (.ok outcome, final) ∧
        final.context.mid.map (·.deviceEff) = some deviceEff ∧
        ∀ channel < 2, ∃ trim, LinedUp Exact.settings.trim Exact.crossedContext final.context
          (fun channel ↦ if channel = 0 then 110 else 123)
          (fun channel ↦ if channel = 0 then 2 else -3) deviceEff channel trim := by
  have horderly : Orderly Exact.settings.trim :=
    ⟨by decide, by decide, by decide, by decide +kernel⟩
  have hfits : Exact.crossedContext.Fits := rfl
  have hinUse : ∀ channel < 2, Exact.crossedContext.InUse channel :=
    fun channel hinside ↦ ⟨hinside, by
      rw [ChannelMask.isMasked, Exact.crossedContext, Context.new, ChannelMask.reason_new]
      rfl⟩
  obtain ⟨_, hpass⟩ := pass_lines_up horderly hfits Exact.crossed_respondsLinearly .first (.new ())
  obtain ⟨outcome, final, deviceEff, hrun, _, hmid, _, hchannels⟩ := hpass ⟨0, hinUse 0 (by decide)⟩
  refine ⟨⟨horderly, hfits⟩, outcome, final, deviceEff, hrun, ?_, fun channel hinside ↦ ?_⟩
  · rw [hmid]
    rfl
  · exact hchannels channel (hinUse channel hinside)

end ThresholdTrim
