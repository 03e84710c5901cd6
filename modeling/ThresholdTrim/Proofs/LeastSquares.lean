import ThresholdTrim.Proofs.Exact

/-!
# Least squares

In exact arithmetic a fit returns the one line that leaves the least sum of squares. About the means
a sum of squares is a quadratic in the slope and in the height at the mean, with no mixed term and
with the spread of the abscissae and the number of points for coefficients (`sumSq_eq_add`), and a
fit is refused unless that spread is positive. So the fitted line is the only minimiser, among
lines with real coefficients too.

What else is true of it follows from that: points of a line have no residuals, so it is their fit
(`Line.fit_of_line`), and a sum does not depend on the order of the points.
-/

namespace ThresholdTrim

open Scalar Statistics

/-! ## Means -/

section

variable {xs ys : List ℚ}

theorem sum_eq_listSum (xs : List ℚ) : Statistics.sum xs = xs.sum := by
  cases xs with
  | nil => rfl
  | cons x xs =>
    rw [Statistics.sum, List.sum_cons]
    induction xs generalizing x with
    | nil => rw [List.foldl_nil, List.sum_nil, add_zero]
    | cons y xs ih => rw [List.foldl_cons, ih, List.sum_cons, add_assoc]

theorem mean_eq_div (xs : List ℚ) : mean xs = xs.sum / xs.length := by
  rw [mean, sum_eq_listSum]
  rfl

theorem cast_length_ne_zero (hne : xs ≠ []) : (xs.length : ℚ) ≠ 0 := by
  exact_mod_cast (List.length_pos_iff.mpr hne).ne'

theorem length_mul_mean (hne : xs ≠ []) : (xs.length : ℚ) * mean xs = xs.sum := by
  rw [mean_eq_div, mul_div_cancel₀ _ (cast_length_ne_zero hne)]

/-- The mean of equal values. -/
theorem mean_of_forall_eq {v : ℚ} (hne : xs ≠ []) (h : ∀ x ∈ xs, x = v) : mean xs = v := by
  refine mul_left_cancel₀ (cast_length_ne_zero hne) ?_
  rw [length_mul_mean hne, List.eq_replicate_of_mem h, List.sum_replicate, List.length_replicate,
    nsmul_eq_mul]

theorem mean_perm (h : xs.Perm ys) : mean xs = mean ys := by
  rw [mean_eq_div, mean_eq_div, h.sum_eq, h.length_eq]

/-- About the mean the values cancel out. -/
theorem sum_sub_mean (xs : List ℚ) : (xs.map (· - mean xs)).sum = 0 := by
  rcases eq_or_ne xs [] with rfl | hne
  · rfl
  simp only [sub_eq_add_neg, List.sum_map_add, List.map_id', List.map_const', List.sum_replicate,
    nsmul_eq_mul, mul_neg, length_mul_mean hne, add_neg_cancel]

/-! ## Spread -/

/-- Sum of the squared distances from a centre. -/
def spread (center : ℚ) (xs : List ℚ) : ℚ := (xs.map fun x ↦ (x - center) * (x - center)).sum

theorem spread_nonneg (center : ℚ) (xs : List ℚ) : 0 ≤ spread center xs := by
  refine List.sum_nonneg ?_
  rintro _ hmem
  obtain ⟨x, _, rfl⟩ := List.mem_map.mp hmem
  exact mul_self_nonneg _

theorem spread_perm (h : xs.Perm ys) (center : ℚ) : spread center xs = spread center ys :=
  (h.map _).sum_eq

/-- Equal values have no spread. -/
theorem spread_mean_of_forall_eq (h : ∀ x ∈ xs, ∀ y ∈ xs, x = y) : spread (mean xs) xs = 0 := by
  refine List.sum_eq_zero ?_
  rintro _ hmem
  obtain ⟨x, hx, rfl⟩ := List.mem_map.mp hmem
  rw [mean_of_forall_eq (List.ne_nil_of_mem hx) (fun y hy ↦ h y hy x hx), sub_self, mul_zero]

/-- Two values that are a step apart have some spread, wherever it is taken from. -/
theorem half_le_spread {x y : ℚ} (hx : x ∈ xs) (hy : y ∈ xs) (hgap : 1 ≤ (x - y) ^ 2)
    (center : ℚ) : 1 / 2 ≤ spread center xs := by
  have hne : y ≠ x := by
    rintro rfl
    norm_num at hgap
  have hperm : xs.Perm (x :: y :: (xs.erase x).erase y) :=
    (List.perm_cons_erase hx).trans
      ((List.perm_cons_erase ((List.mem_erase_of_ne hne).mpr hy)).cons x)
  have hrest := spread_nonneg center ((xs.erase x).erase y)
  rw [spread_perm hperm, spread, List.map_cons, List.map_cons, List.sum_cons, List.sum_cons,
    ← spread]
  nlinarith [sq_nonneg ((x - center) + (y - center))]

theorem minVariance_pos : (0 : ℚ) < Line.minVariance := by
  change (0 : ℚ) < ((1 : ℕ) : ℚ) / (4503599627370496 : ℕ)
  norm_num

/-- Integers that differ have enough spread to fit a line. -/
theorem minVariance_lt_spread {x y : ℤ} (hx : (x : ℚ) ∈ xs) (hy : (y : ℚ) ∈ xs) (hne : x ≠ y)
    (center : ℚ) : Line.minVariance < spread center xs := by
  have hgap : (1 : ℚ) ≤ ((x : ℚ) - y) ^ 2 := by
    exact_mod_cast (one_le_sq_iff_one_le_abs _).mpr (Int.one_le_abs (sub_ne_zero.mpr hne))
  refine lt_of_lt_of_le ?_ (half_le_spread hx hy hgap center)
  change ((1 : ℕ) : ℚ) / (4503599627370496 : ℕ) < 1 / 2
  norm_num

/-- Register values that differ have some spread, wherever it is taken from. -/
theorem minVariance_lt_spread_of_nodup {dacs : List ℕ} (hnodup : dacs.Nodup)
    (htwo : 2 ≤ dacs.length) (center : ℚ) :
    Line.minVariance < spread center (dacs.map (↑)) := by
  match dacs, htwo with
  | first :: second :: rest, _ =>
    have hne : (first : ℤ) ≠ second := by
      have hfirst : first ≠ second := fun heq ↦ (List.nodup_cons.mp hnodup).1 (heq ▸ .head _)
      exact_mod_cast hfirst
    exact minVariance_lt_spread (by simp) (by simp) hne center

/-- Integers have no spread to speak of only if they are all the same. -/
theorem spread_le_minVariance_iff {zs : List ℤ} (h : xs = zs.map (↑)) :
    spread (mean xs) xs ≤ Line.minVariance ↔ ∀ x ∈ xs, ∀ y ∈ xs, x = y := by
  constructor
  · intro hle x hx y hy
    by_contra hne
    subst h
    obtain ⟨i, _, rfl⟩ := List.mem_map.mp hx
    obtain ⟨j, _, rfl⟩ := List.mem_map.mp hy
    have hij : i ≠ j := fun heq ↦ hne (congrArg _ heq)
    exact absurd hle (not_le.mpr (minVariance_lt_spread hx hy hij _))
  · intro heq
    rw [spread_mean_of_forall_eq heq]
    exact minVariance_pos.le

end

/-! ## Sums of squares -/

/-- What a line with real coefficients leaves of the points. -/
noncomputable def sumSq (points : List (ℚ × ℚ)) (a c : ℝ) : ℝ :=
  (points.map fun p ↦ ((p.2 : ℝ) - a * p.1 - c) ^ 2).sum

theorem sumSq_nonneg (points : List (ℚ × ℚ)) (a c : ℝ) : 0 ≤ sumSq points a c := by
  refine List.sum_nonneg ?_
  rintro _ hmem
  obtain ⟨p, _, rfl⟩ := List.mem_map.mp hmem
  exact sq_nonneg _

/-- A line that leaves less than every other one. -/
structure IsLeastSquares (points : List (ℚ × ℚ)) (line : Line ℚ) : Prop where
  le : ∀ a c : ℝ, sumSq points line.slope line.intercept ≤ sumSq points a c
  unique : ∀ a c : ℝ, sumSq points a c ≤ sumSq points line.slope line.intercept →
    a = line.slope ∧ c = line.intercept

/-- A line that leaves no more than the one of least squares is that line. -/
theorem IsLeastSquares.eq_of_sumSq_le {points : List (ℚ × ℚ)} {line other : Line ℚ}
    (h : IsLeastSquares points line)
    (hle : sumSq points other.slope other.intercept ≤ sumSq points line.slope line.intercept) :
    other = line := by
  obtain ⟨hslope, hintercept⟩ := h.unique _ _ hle
  cases other
  cases line
  exact congrArg₂ Line.mk (Rat.cast_injective hslope) (Rat.cast_injective hintercept)

/-- A sum of squares about a line, in terms of its slope and its height at the centre. -/
theorem sum_map_sq {α : Type} (u v : α → ℝ) (a e : ℝ) (points : List α) :
    (points.map fun p ↦ (v p - a * u p + e) ^ 2).sum =
      (points.map fun p ↦ v p ^ 2).sum - 2 * a * (points.map fun p ↦ u p * v p).sum +
        a ^ 2 * (points.map fun p ↦ u p * u p).sum + points.length * e ^ 2 +
        2 * e * ((points.map v).sum - a * (points.map u).sum) := by
  induction points with
  | nil => simp
  | cons p points ih =>
    simp only [List.map_cons, List.sum_cons, List.length_cons, ih]
    push_cast
    ring

theorem sum_map_cast {α : Type} (f : α → ℚ) (points : List α) :
    (points.map fun p ↦ (f p : ℝ)).sum = ((points.map f).sum : ℚ) := by
  rw [Rat.cast_list_sum, List.map_map]
  rfl

section

variable {xs ys : List ℚ}

/-- Sum of the products of the distances from the means. -/
def coSpread (xs ys : List ℚ) : ℚ :=
  ((xs.zip ys).map fun p ↦ (p.1 - mean xs) * (p.2 - mean ys)).sum

/-- The line of slope `coSpread / spread` through the means. -/
def meanLine (xs ys : List ℚ) : Line ℚ :=
  let slope := coSpread xs ys / spread (mean xs) xs
  ⟨slope, mean ys - slope * mean xs⟩

theorem sum_zip_fst (hlength : xs.length = ys.length) (f : ℚ → ℚ) :
    ((xs.zip ys).map fun p ↦ f p.1).sum = (xs.map f).sum := by
  have hfst : ((xs.zip ys).map Prod.fst).map f = xs.map f := by
    rw [List.map_fst_zip hlength.le]
  rw [← hfst, List.map_map]
  rfl

theorem sum_zip_snd (hlength : xs.length = ys.length) (f : ℚ → ℚ) :
    ((xs.zip ys).map fun p ↦ f p.2).sum = (ys.map f).sum := by
  have hsnd : ((xs.zip ys).map Prod.snd).map f = ys.map f := by
    rw [List.map_snd_zip hlength.ge]
  rw [← hsnd, List.map_map]
  rfl

/-- About the means a sum of squares has no mixed term. -/
theorem sumSq_eq (hlength : xs.length = ys.length) (a c : ℝ) :
    sumSq (xs.zip ys) a c =
      spread (mean ys) ys - 2 * a * coSpread xs ys + a ^ 2 * spread (mean xs) xs +
        xs.length * (((mean ys : ℚ) : ℝ) - a * ((mean xs : ℚ) : ℝ) - c) ^ 2 := by
  let u : ℚ × ℚ → ℝ := fun p ↦ ((p.1 - mean xs : ℚ) : ℝ)
  let v : ℚ × ℚ → ℝ := fun p ↦ ((p.2 - mean ys : ℚ) : ℝ)
  have hterm : ∀ p : ℚ × ℚ, ((p.2 : ℝ) - a * p.1 - c) ^ 2 =
      (v p - a * u p + (((mean ys : ℚ) : ℝ) - a * ((mean xs : ℚ) : ℝ) - c)) ^ 2 := by
    intro p
    dsimp only [u, v]
    push_cast
    ring
  have hsum : ((xs.zip ys).map u).sum = 0 ∧ ((xs.zip ys).map v).sum = 0 := by
    rw [sum_map_cast, sum_map_cast, sum_zip_fst hlength fun x ↦ x - mean xs,
      sum_zip_snd hlength fun y ↦ y - mean ys, sum_sub_mean, sum_sub_mean]
    exact ⟨Rat.cast_zero, Rat.cast_zero⟩
  have huu : ((xs.zip ys).map fun p ↦ u p * u p).sum = spread (mean xs) xs := by
    rw [spread, ← sum_zip_fst hlength fun x ↦ (x - mean xs) * (x - mean xs), ← sum_map_cast]
    exact congrArg List.sum (List.map_congr_left fun p _ ↦ (Rat.cast_mul _ _).symm)
  have hvv : ((xs.zip ys).map fun p ↦ v p ^ 2).sum = spread (mean ys) ys := by
    rw [spread, ← sum_zip_snd hlength fun y ↦ (y - mean ys) * (y - mean ys), ← sum_map_cast]
    exact congrArg List.sum
      (List.map_congr_left fun p _ ↦ (sq _).trans (Rat.cast_mul _ _).symm)
  have huv : ((xs.zip ys).map fun p ↦ u p * v p).sum = coSpread xs ys := by
    rw [coSpread, ← sum_map_cast]
    exact congrArg List.sum (List.map_congr_left fun p _ ↦ (Rat.cast_mul _ _).symm)
  rw [sumSq, List.map_congr_left fun p _ ↦ hterm p, sum_map_sq, hsum.1, hsum.2, huu, hvv, huv,
    List.length_zip, ← hlength, Nat.min_self]
  ring

/-- What any line leaves is what the fitted one leaves, and two squares. -/
theorem sumSq_eq_add (hlength : xs.length = ys.length) (hspread : spread (mean xs) xs ≠ 0)
    (a c : ℝ) :
    sumSq (xs.zip ys) a c =
      sumSq (xs.zip ys) (meanLine xs ys).slope (meanLine xs ys).intercept +
        spread (mean xs) xs * (a - (meanLine xs ys).slope) ^ 2 +
        xs.length * (((mean ys : ℚ) : ℝ) - a * ((mean xs : ℚ) : ℝ) - c) ^ 2 := by
  have hslope : (coSpread xs ys : ℝ) = (meanLine xs ys).slope * spread (mean xs) xs := by
    rw [meanLine, ← Rat.cast_mul, div_mul_cancel₀ _ hspread]
  have hintercept : ((meanLine xs ys).intercept : ℝ) =
      ((mean ys : ℚ) : ℝ) - (meanLine xs ys).slope * ((mean xs : ℚ) : ℝ) := by
    rw [meanLine]
    push_cast
    rfl
  rw [sumSq_eq hlength, sumSq_eq hlength, hslope, hintercept]
  ring

theorem isLeastSquares_meanLine (hlength : xs.length = ys.length)
    (hspread : 0 < spread (mean xs) xs) : IsLeastSquares (xs.zip ys) (meanLine xs ys) := by
  have hpos : (0 : ℝ) < spread (mean xs) xs := by exact_mod_cast hspread
  have hcount : (0 : ℝ) < xs.length := by
    have hne : xs ≠ [] := by
      rintro rfl
      exact lt_irrefl _ hspread
    exact_mod_cast List.length_pos_iff.mpr hne
  have hslopes : ∀ a : ℝ, 0 ≤ (spread (mean xs) xs : ℝ) * (a - (meanLine xs ys).slope) ^ 2 :=
    fun a ↦ mul_nonneg hpos.le (sq_nonneg _)
  have hheights : ∀ a c : ℝ,
      0 ≤ (xs.length : ℝ) * (((mean ys : ℚ) : ℝ) - a * ((mean xs : ℚ) : ℝ) - c) ^ 2 :=
    fun a c ↦ mul_nonneg hcount.le (sq_nonneg _)
  refine ⟨fun a c ↦ ?_, fun a c hle ↦ ?_⟩
  · rw [sumSq_eq_add hlength hspread.ne' a c]
    linarith [hslopes a, hheights a c]
  · -- a line that leaves no more has neither another slope nor another height at the mean
    rw [sumSq_eq_add hlength hspread.ne' a c] at hle
    have hslope : (spread (mean xs) xs : ℝ) * (a - (meanLine xs ys).slope) ^ 2 = 0 := by
      linarith [hslopes a, hheights a c]
    have hheight :
        (xs.length : ℝ) * (((mean ys : ℚ) : ℝ) - a * ((mean xs : ℚ) : ℝ) - c) ^ 2 = 0 := by
      linarith [hslopes a, hheights a c]
    have hslope := sub_eq_zero.mp
      (pow_eq_zero_iff two_ne_zero |>.mp ((mul_eq_zero.mp hslope).resolve_left hpos.ne'))
    have hheight := sub_eq_zero.mp
      (pow_eq_zero_iff two_ne_zero |>.mp ((mul_eq_zero.mp hheight).resolve_left hcount.ne'))
    refine ⟨hslope, ?_⟩
    rw [← hheight, hslope, meanLine]
    push_cast
    rfl

/-! ## Fitted lines -/

theorem foldl_pair_add {α : Type} (f g : α → ℚ) (points : List α) (sums : ℚ × ℚ) :
    points.foldl (fun sums p ↦ (sums.1 + f p, sums.2 + g p)) sums =
      (sums.1 + (points.map f).sum, sums.2 + (points.map g).sum) := by
  induction points generalizing sums with
  | nil => simp
  | cons p points ih =>
    rw [List.foldl_cons, ih, List.map_cons, List.map_cons, List.sum_cons, List.sum_cons,
      add_assoc, add_assoc]

/-- A fit is refused for one of three reasons, and is the line through the means otherwise. -/
theorem Line.fit_eq_ite (xs ys : List ℚ) : Line.fit xs ys =
    if xs.length ≠ ys.length then .error .lengthsDiffer
    else if xs.length < 2 then .error .fewerThanTwo
    else if spread (mean xs) xs ≤ minVariance then .error .noVariance
    else .ok (meanLine xs ys) := by
  rw [Line.fit]
  split
  · rfl
  rename_i hlength
  split
  · rfl
  have hsums : (xs.zip ys).foldl
      (fun sums p ↦ (sums.1 + (p.1 - mean xs) * (p.2 - mean ys),
        sums.2 + (p.1 - mean xs) * (p.1 - mean xs))) (ofCount 0, ofCount 0) =
      (coSpread xs ys, spread (mean xs) xs) := by
    have hzero : (ofCount 0 : ℚ) = 0 := Nat.cast_zero
    rw [foldl_pair_add, hzero, zero_add, zero_add, ← coSpread,
      sum_zip_fst (not_not.mp hlength) fun x ↦ (x - mean xs) * (x - mean xs), ← spread]
  change (if !lt minVariance ((xs.zip ys).foldl
      (fun sums p ↦ (sums.1 + (p.1 - mean xs) * (p.2 - mean ys),
        sums.2 + (p.1 - mean xs) * (p.1 - mean xs))) (ofCount 0, ofCount 0)).2 then _ else
    Except.ok (Line.mk _ _)) = _
  rw [hsums]
  by_cases hspread : spread (mean xs) xs ≤ minVariance
  · rw [if_pos hspread, lt_eq_false_rat.mpr hspread]
    rfl
  · rw [if_neg hspread, lt_rat.mpr (not_le.mp hspread)]
    rfl

variable {line : Line ℚ} {m b : ℚ}

theorem Line.fit_eq_error_iff (xs ys : List ℚ) :
    (∃ fault, Line.fit xs ys = .error fault) ↔
      xs.length ≠ ys.length ∨ xs.length < 2 ∨ spread (mean xs) xs ≤ minVariance := by
  rw [Line.fit_eq_ite]
  split_ifs with hlength htwo hspread
  · exact iff_of_true ⟨_, rfl⟩ (.inl hlength)
  · exact iff_of_true ⟨_, rfl⟩ (.inr (.inl htwo))
  · exact iff_of_true ⟨_, rfl⟩ (.inr (.inr hspread))
  · refine iff_of_false (fun ⟨_, hfault⟩ ↦ nomatch hfault) ?_
    rintro (h | h | h)
    exacts [hlength h, htwo h, hspread h]

theorem Line.isLeastSquares_fit (h : Line.fit xs ys = .ok line) :
    IsLeastSquares (xs.zip ys) line := by
  rw [Line.fit_eq_ite] at h
  split_ifs at h with hlength htwo hspread
  cases h
  exact isLeastSquares_meanLine (not_not.mp hlength) (minVariance_pos.trans (not_le.mp hspread))

/-- Points of a line leave no residuals, so the line is their fit. -/
theorem IsLeastSquares.eq_of_line {points : List (ℚ × ℚ)} (h : IsLeastSquares points line)
    (hline : ∀ p ∈ points, p.2 = m * p.1 + b) : line = ⟨m, b⟩ := by
  refine (h.eq_of_sumSq_le (le_of_eq_of_le ?_ (sumSq_nonneg ..))).symm
  refine List.sum_eq_zero ?_
  rintro _ hmem
  obtain ⟨p, hp, rfl⟩ := List.mem_map.mp hmem
  rw [hline p hp]
  push_cast
  ring

theorem Line.fit_of_line (hlength : xs.length = ys.length) (htwo : 2 ≤ xs.length)
    (hspread : minVariance < spread (mean xs) xs) (hline : ∀ p ∈ xs.zip ys, p.2 = m * p.1 + b) :
    Line.fit xs ys = .ok ⟨m, b⟩ := by
  have hleast := isLeastSquares_meanLine hlength (minVariance_pos.trans hspread)
  rw [Line.fit_eq_ite, if_neg (not_not_intro hlength), if_neg htwo.not_gt,
    if_neg (not_le.mpr hspread), hleast.eq_of_line hline]

/-- The order of the points does not matter. -/
theorem Line.fit_perm {xs' ys' : List ℚ} (hlength : xs.length = ys.length)
    (hlength' : xs'.length = ys'.length) (h : (xs.zip ys).Perm (xs'.zip ys')) :
    Line.fit xs ys = Line.fit xs' ys' := by
  have hxs : xs.Perm xs' := by
    have hfst := h.map Prod.fst
    rwa [List.map_fst_zip hlength.le, List.map_fst_zip hlength'.le] at hfst
  have hys : ys.Perm ys' := by
    have hsnd := h.map Prod.snd
    rwa [List.map_snd_zip hlength.ge, List.map_snd_zip hlength'.ge] at hsnd
  have hco : coSpread xs ys = coSpread xs' ys' := by
    rw [coSpread, mean_perm hxs, mean_perm hys]
    exact (h.map _).sum_eq
  have hspread : spread (mean xs) xs = spread (mean xs') xs' := by
    rw [mean_perm hxs]
    exact spread_perm hxs _
  have hmean : meanLine xs ys = meanLine xs' ys' := by
    rw [meanLine, meanLine, hco, hspread, mean_perm hxs, mean_perm hys]
  rw [Line.fit_eq_ite, Line.fit_eq_ite, hspread, hmean, hxs.length_eq, hys.length_eq]

/-- A fit is refused if it has no two points or they lie above each other, and is the line of least
squares otherwise, in whatever order the points come. Points of a line give that line. -/
theorem Line.fit_least_squares (xs ys : List ℚ) :
    ((∃ fault, Line.fit xs ys = .error fault) ↔
      xs.length ≠ ys.length ∨ xs.length < 2 ∨ spread (mean xs) xs ≤ minVariance) ∧
    (∀ zs : List ℤ, xs = zs.map (↑) →
      (spread (mean xs) xs ≤ minVariance ↔ ∀ x ∈ xs, ∀ y ∈ xs, x = y)) ∧
    (∀ line, Line.fit xs ys = .ok line →
      IsLeastSquares (xs.zip ys) line ∧
        ∀ m b, (∀ p ∈ xs.zip ys, p.2 = m * p.1 + b) → line = ⟨m, b⟩) ∧
    ∀ xs' ys', xs.length = ys.length → xs'.length = ys'.length →
      (xs.zip ys).Perm (xs'.zip ys') → Line.fit xs ys = Line.fit xs' ys' := by
  refine ⟨fit_eq_error_iff xs ys, fun _ ↦ spread_le_minVariance_iff, fun line hfit ↦ ?_,
    fun _ _ ↦ fit_perm⟩
  have hleast := isLeastSquares_fit hfit
  exact ⟨hleast, fun _ _ ↦ hleast.eq_of_line⟩

/-- Three points that lie on no line. -/
theorem Line.fit_least_squares_scattered :
    Line.fit [1, 2, 3] [2, 1, 3] = .ok (⟨1 / 2, 1⟩ : Line ℚ) ∧
      IsLeastSquares [(1, 2), (2, 1), (3, 3)] ⟨1 / 2, 1⟩ ∧
      Line.fit [3, 1, 2] [3, 2, 1] = .ok (⟨1 / 2, 1⟩ : Line ℚ) := by
  have hfit : Line.fit [1, 2, 3] [2, 1, 3] = .ok (⟨1 / 2, 1⟩ : Line ℚ) := by decide +kernel
  obtain ⟨_, _, hline, horder⟩ := Line.fit_least_squares [1, 2, 3] [2, 1, 3]
  have hperm : List.Perm [((1 : ℚ), (2 : ℚ)), (2, 1), (3, 3)] [(3, 3), (1, 2), (2, 1)] := by
    decide +kernel
  exact ⟨hfit, (hline _ hfit).1, (horder [3, 1, 2] [3, 2, 1] rfl rfl hperm).symm.trans hfit⟩

end

end ThresholdTrim
