import ThresholdTrim.Proofs.Binary.Counts
import ThresholdTrim.Proofs.Median
import ThresholdTrim.Proofs.Steady

/-!
# Noise that leaves the median alone

A linear front-end puts the same ten offsets on its samples over and over. Six of them are zero, and
the others come in pairs of opposite sign, the positive one first. That is what makes a batch of any
length, a broken-off cycle at its end included, have its level for a median: however long the batch,
at most half of its samples lie below the level and fewer than half above it
(`median_of_noisy`).

A sample is rounded and bounded before it is sent. All of that keeps order, so a sample whose offset
is not negative is no less than what the level itself would be sent as, and one whose offset is not
positive is no more. Nothing is asked of the arithmetic but that it keeps order, and that nothing
times the spread adds nothing; binary floating point does both, for rounding keeps order as well.
-/

namespace ThresholdTrim

open Scalar Statistics

/-- Scalars in which comparisons order the numbers, and in which sums, multiples, rounding and
truncation keep that order. A number is one that is at most itself, and finite scalars do not become
anything else by their sign or by being divided by a count. -/
class NoiseScalar (R : Type) [Scalar R] : Prop extends RegisterScalar R where
  le_self : ∀ {x y : R}, le x y = true → le x x = true ∧ le y y = true
  le_trans : ∀ {x y z : R}, le x y = true → le y z = true → le x z = true
  le_total : ∀ {x y : R}, le x x = true → le y y = true → le x y = true ∨ le y x = true
  lt_iff : ∀ {x y : R}, lt x y = true ↔ le x y = true ∧ le y x = false
  isFinite_ofCount : ∀ {n : Nat}, n ≤ maxRegister → isFinite (ofCount n : R) = true
  isFinite_neg : ∀ {x : R}, isFinite x = true → isFinite (-x) = true
  neg_le_zero : ∀ {x : R}, le (ofCount 0) x = true → le (-x) (ofCount 0) = true
  isFinite_div : ∀ {x : R} {n : Nat}, isFinite x = true → 0 < n → n ≤ maxRegister →
    isFinite (x / ofCount n) = true
  zero_le_div : ∀ {x : R} {n : Nat}, le (ofCount 0) x = true → 0 < n → n ≤ maxRegister →
    le (ofCount 0) (x / ofCount n) = true
  /-- Sums with a finite scalar keep order. -/
  add_le_add : ∀ {l x y : R}, isFinite l = true → le x y = true → le (l + x) (l + y) = true
  /-- Multiples by a scalar that is not negative keep order. -/
  mul_le_mul : ∀ {x y s : R}, isFinite x = true → isFinite y = true → isFinite s = true →
    le (ofCount 0) s = true → le x y = true → le (x * s) (y * s) = true
  /-- Equal as numbers; the sign of a zero may be lost. -/
  add_zero_mul : ∀ {l s : R}, isFinite l = true → isFinite s = true →
    le l (l + ofCount 0 * s) = true ∧ le (l + ofCount 0 * s) l = true
  round_le_round : ∀ {x y : R}, le x y = true → le (round x) (round y) = true
  toNat_le_toNat : ∀ {x y : R}, le x y = true → toNat x ≤ toNat y

/-- Two halves that keep order and meet at zero keep order together. -/
theorem monotone_halves {β : Type} [Preorder β] {f g : ℚ → β} {z : β} (hf : Monotone f)
    (hg : Monotone g) (habove : ∀ x, 0 ≤ x → z ≤ f x) (hbelow : ∀ x < 0, g x ≤ z) :
    Monotone fun x ↦ if 0 ≤ x then f x else g x := by
  intro x y hle
  dsimp only
  by_cases hx : 0 ≤ x
  · rw [if_pos hx, if_pos (hx.trans hle)]
    exact hf hle
  · rw [if_neg hx]
    by_cases hy : 0 ≤ y
    · rw [if_pos hy]
      exact (hbelow x (not_le.mp hx)).trans (habove y hy)
    · rw [if_neg hy]
      exact hg hle

theorem monotone_round_rat : Monotone (Scalar.round : ℚ → ℚ) := by
  change Monotone fun x : ℚ ↦ if 0 ≤ x then (⌊x + 1 / 2⌋ : ℚ) else (⌈x - 1 / 2⌉ : ℚ)
  refine monotone_halves (z := 0) ?_ ?_ ?_ ?_
  · exact fun x y hle ↦ Int.cast_mono (Int.floor_mono (by linarith))
  · exact fun x y hle ↦ Int.cast_mono (Int.ceil_mono (by linarith))
  · exact fun x hx ↦ Int.cast_nonneg (Int.floor_nonneg.mpr (by linarith))
  · exact fun x hx ↦ Int.cast_nonpos.mpr (Int.ceil_nonpos.mpr (by linarith))

theorem monotone_toNat_rat : Monotone (toNat : ℚ → ℕ) := by
  have htruncate : Monotone fun x : ℚ ↦ if 0 ≤ x then ⌊x⌋ else ⌈x⌉ :=
    monotone_halves Int.floor_mono Int.ceil_mono (fun x hx ↦ Int.floor_nonneg.mpr hx)
      fun x hx ↦ Int.ceil_nonpos.mpr hx.le
  exact fun x y hle ↦ Int.toNat_le_toNat (htruncate hle)

instance : NoiseScalar ℚ where
  le_self _ := ⟨le_rat.mpr le_rfl, le_rat.mpr le_rfl⟩
  le_trans hxy hyz := le_rat.mpr ((le_rat.mp hxy).trans (le_rat.mp hyz))
  le_total _ _ := Rat.le_total.imp le_rat.mpr le_rat.mpr
  lt_iff {x y} := by
    rw [lt_rat, le_rat, lt_iff_le_not_ge, ← le_rat (a := y), Bool.not_eq_true]
  isFinite_ofCount _ := rfl
  isFinite_neg _ := rfl
  neg_le_zero h := le_rat.mpr (neg_nonpos.mpr (le_rat.mp h))
  isFinite_div _ _ _ := rfl
  zero_le_div h _ _ := le_rat.mpr (div_nonneg (le_rat.mp h) (Nat.cast_nonneg _))
  add_le_add _ h := le_rat.mpr (add_le_add_right (le_rat.mp h) _)
  mul_le_mul _ _ _ hs h := le_rat.mpr (mul_le_mul_of_nonneg_right (le_rat.mp h) (le_rat.mp hs))
  add_zero_mul {l s} _ _ := by
    have hsame : l + ofCount 0 * s = l := by
      change l + ((0 : ℕ) : ℚ) * s = l
      rw [Nat.cast_zero, zero_mul, add_zero]
    rw [hsame]
    exact ⟨le_rat.mpr le_rfl, le_rat.mpr le_rfl⟩
  round_le_round h := le_rat.mpr (monotone_round_rat (le_rat.mp h))
  toNat_le_toNat h := monotone_toNat_rat (le_rat.mp h)

instance : NoiseScalar Float where
  le_self h := by
    obtain ⟨hx, hy, _⟩ := Binary.le_iff.mp h
    exact ⟨Binary.le_iff.mpr ⟨hx, hx, le_rfl⟩, Binary.le_iff.mpr ⟨hy, hy, le_rfl⟩⟩
  le_trans := BumpScalar.le_trans
  le_total {x y} hx hy := by
    have hx := (Binary.le_iff.mp hx).1
    have hy := (Binary.le_iff.mp hy).1
    exact (le_total (Binary.value x) (Binary.value y)).imp
      (fun hle ↦ Binary.le_iff.mpr ⟨hx, hy, hle⟩) fun hle ↦ Binary.le_iff.mpr ⟨hy, hx, hle⟩
  lt_iff {x y} := by
    rw [Binary.lt_iff, ← Bool.not_eq_true (le y x), Binary.le_iff, Binary.le_iff,
      lt_iff_le_not_ge]
    tauto
  isFinite_ofCount hn := Binary.isFinite_ofCount (lt_of_le_maxRegister hn)
  isFinite_neg := Binary.isFinite_neg
  neg_le_zero {x} h := by
    rw [Binary.ofCount_le_iff (by norm_num), Nat.cast_zero] at h
    rw [Binary.le_ofCount_iff (by norm_num), Binary.isNumber_neg, Binary.value_neg, Nat.cast_zero]
    exact ⟨h.1, neg_nonpos.mpr h.2⟩
  isFinite_div {x n} hx hpos hn := by
    have hsmall := lt_of_le_maxRegister hn
    have hone : (1 : ℚ) ≤ n := Nat.one_le_cast.mpr hpos
    have hvalue : Binary.value (ofCount n) = n := Binary.value_ofCount hsmall
    have hquotient := Binary.isRounded_div hx (Binary.isFinite_ofCount hsmall)
      (hvalue ▸ Nat.cast_ne_zero.mpr hpos.ne')
    have hself : Binary.RoundsTo |Binary.value x| |Binary.value x| := by
      rw [← Binary.value_abs]
      exact Binary.roundsTo_value _
    refine hquotient.isFinite hself ?_ (Binary.isFinite_iff.mp hx).2
    rw [hvalue, abs_div, Nat.abs_cast]
    exact div_le_self (abs_nonneg _) hone
  zero_le_div {x n} hx hpos hn := by
    have hsmall := lt_of_le_maxRegister hn
    refine Binary.zero_le_div hx (Binary.isFinite_ofCount hsmall) ?_
    rw [Binary.value_ofCount hsmall]
    exact Nat.cast_pos.mpr hpos
  add_le_add := Binary.add_le_add_of_isFinite
  mul_le_mul {x y s} hx hy hs hzero hle := by
    have hproductX := Binary.isRounded_mul hx hs
    have hproductY := Binary.isRounded_mul hy hs
    rw [Binary.ofCount_le_iff (by norm_num), Nat.cast_zero] at hzero
    refine Binary.le_iff.mpr ⟨hproductX.isNumber, hproductY.isNumber, ?_⟩
    refine hproductX.roundsTo.mono hproductY.roundsTo ?_
    exact mul_le_mul_of_nonneg_right (Binary.le_iff.mp hle).2.2 hzero.2
  add_zero_mul {l s} hl hs := by
    obtain ⟨hfinite, hvalue⟩ := Binary.value_zero_mul hs
    have hsum := Binary.isRounded_add hl hfinite
    rw [hvalue, add_zero] at hsum
    have hnumber := (Binary.isFinite_iff.mp hl).1
    exact ⟨Binary.le_iff.mpr ⟨hnumber, hsum.isNumber, hsum.value_eq.ge⟩,
      Binary.le_iff.mpr ⟨hsum.isNumber, hnumber, hsum.value_eq.le⟩⟩
  round_le_round h := by
    rw [Binary.le_iff] at h ⊢
    rw [Binary.isNumber_round, Binary.isNumber_round, Binary.value_round, Binary.value_round]
    exact ⟨h.1, h.2.1, monotone_round_rat h.2.2⟩
  toNat_le_toNat h := by
    rw [Binary.toNat_eq, Binary.toNat_eq]
    exact min_le_min_right _ (monotone_toNat_rat (Binary.le_iff.mp h).2.2)

/-! ## Conversion keeps order -/

section

variable {R : Type} [Scalar R] [NoiseScalar R] {x y : R} {top : ℕ}

theorem lt_eq_false_of_le (h : le x y = true) : lt y x = false := by
  rw [← Bool.not_eq_true, NoiseScalar.lt_iff, h]
  simp

theorem le_of_lt_eq_false (hx : le x x = true) (hy : le y y = true) (h : lt y x = false) :
    le x y = true := by
  rcases NoiseScalar.le_total hx hy with hle | hle
  · exact hle
  · by_contra hnot
    have hlt := NoiseScalar.lt_iff.mpr ⟨hle, Bool.not_eq_true _ ▸ hnot⟩
    exact Bool.noConfusion (h.symm.trans hlt)

theorem zero_le_count (htop : top ≤ maxRegister) : le (ofCount 0 : R) (ofCount top) = true :=
  RegisterScalar.ofCount_le top.zero_le htop

/-- A number is brought into the range. -/
theorem within_clampTo (htop : top ≤ maxRegister) (hx : le x x = true) :
    within (ofCount 0) (ofCount top) (clampTo top x) = true := by
  have hrange : le (ofCount 0 : R) (ofCount top) = true := zero_le_count htop
  obtain ⟨hzero, hfull⟩ := NoiseScalar.le_self hrange
  rw [within, Bool.and_eq_true, clampTo]
  split
  · exact ⟨hzero, hrange⟩
  · rename_i hbelow
    split
    · exact ⟨hrange, hfull⟩
    · rename_i habove
      exact ⟨le_of_lt_eq_false hzero hx (Bool.eq_false_iff.mpr hbelow),
        le_of_lt_eq_false hx hfull (Bool.eq_false_iff.mpr habove)⟩

/-- A number within the range stays what it is. -/
theorem clampTo_eq_self (hbelow : le (ofCount 0) x = true) (habove : le x (ofCount top) = true) :
    clampTo top x = x := by
  rw [clampTo, lt_eq_false_of_le hbelow, lt_eq_false_of_le habove]
  rfl

theorem clampTo_le_clampTo (htop : top ≤ maxRegister) (h : le x y = true) :
    le (clampTo top x) (clampTo top y) = true := by
  obtain ⟨hx, hy⟩ := NoiseScalar.le_self h
  have hrange : le (ofCount 0 : R) (ofCount top) = true := zero_le_count htop
  obtain ⟨hzero, hfull⟩ := NoiseScalar.le_self hrange
  obtain ⟨_, hxtop⟩ := Bool.and_eq_true_iff.mp (within_clampTo htop hx)
  obtain ⟨hyzero, _⟩ := Bool.and_eq_true_iff.mp (within_clampTo htop hy)
  cases hbelow : lt x (ofCount 0) with
  | true =>
    have hraised : clampTo top x = ofCount 0 := if_pos hbelow
    rwa [hraised]
  | false =>
    cases habove : lt (ofCount top) y with
    | true =>
      -- a number above the range is not below it as well
      have hyabove := (NoiseScalar.lt_iff.mp habove).1
      have hlowered : clampTo top y = ofCount top := by
        rw [clampTo, lt_eq_false_of_le (NoiseScalar.le_trans hrange hyabove), habove]
        rfl
      rwa [hlowered]
    | false =>
      -- the bound that either number could pass lies beyond the other one
      have hxzero := le_of_lt_eq_false hzero hx hbelow
      have hytop := le_of_lt_eq_false hy hfull habove
      rwa [clampTo_eq_self hxzero (NoiseScalar.le_trans h hytop),
        clampTo_eq_self (NoiseScalar.le_trans hxzero h) hytop]

namespace LinearModel

theorem maxCount_le : maxCount ≤ maxRegister := by decide

theorem convert_le_convert (h : le x y = true) : convert x ≤ convert y :=
  NoiseScalar.toNat_le_toNat (clampTo_le_clampTo maxCount_le (NoiseScalar.round_le_round h))

theorem convert_le (hx : le x x = true) : convert x ≤ maxCount := by
  have hwithin := within_clampTo maxCount_le (NoiseScalar.round_le_round hx)
  exact RegisterScalar.toNat_le maxCount_le (Bool.and_eq_true_iff.mp hwithin).2

end LinearModel

end

/-! ## The positions of the noise -/

namespace LinearModel

/-- Positions `first` and `first + 2` of every ten. -/
def isNoisy (first i : ℕ) : Bool := i % 10 == first || i % 10 == first + 2

/-- Samples that noise may raise. -/
def isRaised : ℕ → Bool := isNoisy 2

/-- Samples that noise may lower. -/
def isLowered : ℕ → Bool := isNoisy 3

theorem countP_isNoisy {first : ℕ} (hfirst : first < 8) (n : ℕ) :
    (List.range n).countP (isNoisy first) = (n + (9 - first)) / 10 + (n + (7 - first)) / 10 := by
  induction n with
  | zero =>
    rw [List.range_zero, List.countP_nil]
    omega
  | succ n ih =>
    rw [List.range_succ, List.countP_append, ih, List.countP_singleton, isNoisy]
    simp only [Bool.or_eq_true, beq_iff_eq]
    split
    · omega
    · omega

/-- At any length, as few samples of a batch are noisy as a median allows. -/
theorem median_of_noisy {f : ℕ → ℕ} {m n : ℕ} (hn : n ≠ 0)
    (hlow : ∀ i, isLowered i = false → m ≤ f i) (hhigh : ∀ i, isRaised i = false → f i ≤ m) :
    median ((List.range n).map f) = some m := by
  refine median_eq_some_iff.mpr ⟨?_, ?_, ?_⟩
  · have hfirst : f 0 = m := Nat.le_antisymm (hhigh 0 rfl) (hlow 0 rfl)
    exact List.mem_map.mpr ⟨0, List.mem_range.mpr (Nat.pos_of_ne_zero hn), hfirst⟩
  · have hlowered : ∀ i ∈ List.range n, decide (f i < m) = true → isLowered i = true := by
      intro i _ hi
      by_contra hnot
      exact absurd (of_decide_eq_true hi) (hlow i (Bool.eq_false_iff.mpr hnot)).not_gt
    calc ((List.range n).map f).countP (· < m)
        = (List.range n).countP fun i ↦ f i < m := List.countP_map
      _ ≤ (List.range n).countP isLowered := List.countP_mono_left hlowered
      _ = (n + 6) / 10 + (n + 4) / 10 := countP_isNoisy (by decide) n
      _ ≤ n / 2 := by omega
      _ = ((List.range n).map f).length / 2 := by rw [List.length_map, List.length_range]
  · have hraised : ∀ i ∈ List.range n, decide (m < f i) = true → isRaised i = true := by
      intro i _ hi
      by_contra hnot
      exact absurd (of_decide_eq_true hi) (hhigh i (Bool.eq_false_iff.mpr hnot)).not_gt
    calc ((List.range n).map f).countP (m < ·)
        = (List.range n).countP fun i ↦ m < f i := List.countP_map
      _ ≤ (List.range n).countP isRaised := List.countP_mono_left hraised
      _ = (n + 7) / 10 + (n + 5) / 10 := countP_isNoisy (by decide) n
      _ ≤ n - n / 2 - 1 := by omega
      _ = ((List.range n).map f).length - ((List.range n).map f).length / 2 - 1 := by
        rw [List.length_map, List.length_range]

/-! ## The offsets -/

section

variable {R : Type} [Scalar R]

/-- Noise of a sample in tenths of the spread. -/
def offset (R : Type) [Scalar R] (i : ℕ) : R := (noiseCycle : List R)[i % 10]?.getD (ofCount 0)

/-- A sample that noise does not lower has an offset that is a count. -/
theorem offset_of_not_lowered {i : ℕ} (h : isLowered i = false) :
    ∃ n ≤ maxRegister, offset R i = ofCount n := by
  have hi : i % 10 < 10 := Nat.mod_lt i (by decide)
  rw [isLowered, isNoisy] at h
  rw [offset]
  match i % 10, hi, h with
  | 0, _, _ | 1, _, _ | 6, _, _ | 7, _, _ | 8, _, _ | 9, _, _ => exact ⟨0, by decide, rfl⟩
  | 2, _, _ => exact ⟨20, by decide, rfl⟩
  | 4, _, _ => exact ⟨10, by decide, rfl⟩

/-- One that noise does not raise has an offset of zero or the negative of a count. -/
theorem offset_of_not_raised {i : ℕ} (h : isRaised i = false) :
    offset R i = ofCount 0 ∨ ∃ n ≤ maxRegister, offset R i = -ofCount n := by
  have hi : i % 10 < 10 := Nat.mod_lt i (by decide)
  rw [isRaised, isNoisy] at h
  rw [offset]
  match i % 10, hi, h with
  | 0, _, _ | 1, _, _ | 6, _, _ | 7, _, _ | 8, _, _ | 9, _, _ => exact .inl rfl
  | 3, _, _ => exact .inr ⟨20, by decide, rfl⟩
  | 5, _, _ => exact .inr ⟨10, by decide, rfl⟩

theorem not_raised_of_lowered {i : ℕ} (h : isLowered i = true) : isRaised i = false := by
  rw [isLowered, isNoisy, Bool.or_eq_true, beq_iff_eq, beq_iff_eq] at h
  rw [isRaised, isNoisy, Bool.or_eq_false_iff, beq_eq_false_iff_ne, beq_eq_false_iff_ne]
  omega

variable [NoiseScalar R] {model : LinearModel R} {request : Request} {level scale : R} {i : ℕ}

theorem le_add_offset (hlevel : isFinite level = true) (hscale : isFinite scale = true)
    (hspread : le (ofCount 0) scale = true) (h : isLowered i = false) :
    le level (level + offset R i * scale) = true := by
  obtain ⟨n, hn, hoffset⟩ := offset_of_not_lowered (R := R) h
  have hmore : le (ofCount 0 * scale) (ofCount n * scale) = true :=
    NoiseScalar.mul_le_mul (NoiseScalar.isFinite_ofCount (Nat.zero_le _))
      (NoiseScalar.isFinite_ofCount hn) hscale hspread (zero_le_count hn)
  rw [hoffset]
  exact NoiseScalar.le_trans (NoiseScalar.add_zero_mul hlevel hscale).1
    (NoiseScalar.add_le_add hlevel hmore)

theorem add_offset_le (hlevel : isFinite level = true) (hscale : isFinite scale = true)
    (hspread : le (ofCount 0) scale = true) (h : isRaised i = false) :
    le (level + offset R i * scale) level = true := by
  obtain ⟨_, hnothing⟩ := NoiseScalar.add_zero_mul hlevel hscale
  rcases offset_of_not_raised (R := R) h with hoffset | ⟨n, hn, hoffset⟩
  · rwa [hoffset]
  · have hfinite : isFinite (-ofCount n : R) = true :=
      NoiseScalar.isFinite_neg (NoiseScalar.isFinite_ofCount hn)
    have hless : le (-ofCount n * scale) (ofCount 0 * scale) = true :=
      NoiseScalar.mul_le_mul hfinite (NoiseScalar.isFinite_ofCount (Nat.zero_le _)) hscale hspread
        (NoiseScalar.neg_le_zero (zero_le_count hn))
    rw [hoffset]
    exact NoiseScalar.le_trans (NoiseScalar.add_le_add hlevel hless) hnothing

/-- Noise never makes a level anything but a number. -/
theorem isNumber_add_offset (hlevel : isFinite level = true) (hscale : isFinite scale = true)
    (hspread : le (ofCount 0) scale = true) (i : ℕ) :
    le (level + offset R i * scale) (level + offset R i * scale) = true := by
  cases h : isLowered i with
  | false => exact (NoiseScalar.le_self (le_add_offset hlevel hscale hspread h)).2
  | true =>
    have hnot := not_raised_of_lowered h
    exact (NoiseScalar.le_self (add_offset_le hlevel hscale hspread hnot)).1

omit [NoiseScalar R] in
/-- A channel that does not fail answers with its batch. -/
theorem acquire_of_notMem (h : request.channel.channel ∉ model.failing) :
    model.acquire request = .ok (model.respond request) := by
  have hanswers : model.failing.contains request.channel.channel = false := by
    rw [← Bool.not_eq_true, List.contains_iff_mem]
    exact h
  rw [acquire]
  dsimp only
  rw [hanswers]
  rfl

/-- The noise of a linear front-end does not show in the median. A channel that answers and has a
finite level sends as many samples as it is asked for, each a count of the converter, and the median
of them is the level, rounded and brought into the range of the converter. -/
theorem noise_leaves_median (model : LinearModel R) (request : Request)
    (hfinite : isFinite model.noiseRms = true) (hspread : le (ofCount 0) model.noiseRms = true)
    (hanswers : request.channel.channel ∉ model.failing)
    (hlevel : isFinite (model.level request.channel.channel request.setting) = true)
    (hcount : 1 ≤ request.count) :
    ∃ batch, model.acquire request = .ok batch ∧ batch.length = request.count ∧
      (∀ sample ∈ batch, sample ≤ maxCount) ∧
      median batch = some (toNat (clampTo maxCount
        (Scalar.round (model.level request.channel.channel request.setting)))) := by
  have hscale : isFinite (model.noiseRms / ofCount 10) = true :=
    NoiseScalar.isFinite_div hfinite (by decide) (by decide)
  have htenth : le (ofCount 0) (model.noiseRms / ofCount 10) = true :=
    NoiseScalar.zero_le_div hspread (by decide) (by decide)
  refine ⟨_, acquire_of_notMem hanswers, ?_, ?_, ?_⟩
  · rw [respond, List.length_map, List.length_range]
  · intro sample hmem
    obtain ⟨i, _, rfl⟩ := List.mem_map.mp hmem
    exact convert_le (isNumber_add_offset hlevel hscale htenth i)
  · refine median_of_noisy (by omega) (fun i hi ↦ ?_) fun i hi ↦ ?_
    · exact convert_le_convert (le_add_offset hlevel hscale htenth hi)
    · exact convert_le_convert (add_offset_le hlevel hscale htenth hi)

end

/-- Three samples past the first cycle, at a level halfway between two counts and close enough to
the end of the range for the raised samples to be cut off. -/
theorem noise_leaves_median_near_the_end :
    let model : LinearModel ℚ := uniform 1 100 10
    let request : Request := ⟨⟨⟨"MMFE8", 0⟩, 0⟩, .threshold 1617 14, 13⟩
    let batch := [4093, 4093, 4095, 4073, 4095, 4083, 4093, 4093, 4093, 4093, 4093, 4093, 4095]
    isFinite model.noiseRms = true ∧ le (ofCount 0) model.noiseRms = true ∧
      request.channel.channel ∉ model.failing ∧
      isFinite (model.level request.channel.channel request.setting) = true ∧
      1 ≤ request.count ∧ model.level request.channel.channel request.setting = 8185 / 2 ∧
      model.acquire request = .ok batch ∧ median batch = some 4093 := by
  intro model request batch
  have hspread : le (ofCount 0) model.noiseRms = true := by decide +kernel
  have hlevel : model.level request.channel.channel request.setting = 8185 / 2 := by
    decide +kernel
  have hbatch : model.acquire request = .ok batch := by decide +kernel
  refine ⟨rfl, hspread, List.not_mem_nil, rfl, by decide, hlevel, hbatch, ?_⟩
  obtain ⟨sent, hsent, _, _, hmedian⟩ :=
    noise_leaves_median model request rfl hspread List.not_mem_nil rfl (by decide)
  obtain rfl : batch = sent := Except.ok.inj (hbatch.symm.trans hsent)
  have hrounded : toNat (clampTo maxCount (Scalar.round (8185 / 2 : ℚ))) = 4093 := by decide +kernel
  rw [hmedian, hlevel, hrounded]

end LinearModel

end ThresholdTrim
