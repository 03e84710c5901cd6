import ThresholdTrim.Proofs.Binary.Arithmetic
import ThresholdTrim.Proofs.Exact

/-!
# Whole numbers in binary floating point

Rounding to a whole number does to the value of a number what it does to a rational one
(`value_round`, `value_ceil`): magnitudes below the place of ones are few enough to be counted
exactly, and the others are whole as they are. Truncation does so too, within the range of a 64-bit
integer (`truncate_eq`).
-/

namespace ThresholdTrim.Binary

open Float.Model UnpackedFloat Scalar

variable {x : Float} {sign : Sign} {m n : ℕ} {e : ℤ} {q : ℚ} {u : UnpackedFloat}

/-! ## Rounding -/

/-- Makes the magnitudes of binary numbers whole the way `f` makes rational numbers whole. -/
structure RoundsWhole (whole : Sign → ℕ → ℕ → ℕ) (f : ℚ → ℚ) : Prop where
  le : ∀ sign m {d : ℕ}, 2 ≤ d → whole sign m d ≤ m
  fraction : ∀ sign (m : ℕ) {d : ℕ}, 0 < d → f (signed sign (m / d)) = signed sign (whole sign m d)
  intCast : ∀ n : ℤ, f n = n

theorem round_signed (sign : Sign) (hq : 0 ≤ q) :
    Scalar.round (signed sign q) = signed sign (⌊q + 1 / 2⌋ : ℚ) := by
  cases sign with
  | positive => exact if_pos hq
  | negative =>
    change (if 0 ≤ -q then (⌊-q + 1 / 2⌋ : ℚ) else (⌈-q - 1 / 2⌉ : ℚ)) = -(⌊q + 1 / 2⌋ : ℚ)
    rcases hq.eq_or_lt with rfl | hpos
    · norm_num
    · have hneg : -q - 1 / 2 = -(q + 1 / 2) := by ring
      rw [if_neg (by linarith), hneg, Int.ceil_neg, Int.cast_neg]

theorem roundsWhole_nearest : RoundsWhole nearest Scalar.round where
  le _ m d hd := Nat.le_of_lt_succ (Nat.div_lt_of_lt_mul (by nlinarith))
  fraction sign m d hd := by
    have hpos : (0 : ℚ) < d := Nat.cast_pos.mpr hd
    have hhalf : (m : ℚ) / d + 1 / 2 = (2 * m + d : ℕ) / (2 * d : ℕ) := by
      push_cast
      field_simp
    rw [round_signed sign (by positivity), hhalf, Rat.floor_natCast_div_natCast]
    rfl
  intCast n := by
    change (if 0 ≤ (n : ℚ) then (⌊(n : ℚ) + 1 / 2⌋ : ℚ) else (⌈(n : ℚ) - 1 / 2⌉ : ℚ)) = n
    have hfloor : ⌊(n : ℚ) + 1 / 2⌋ = n := by
      rw [Int.floor_intCast_add]
      norm_num
    have hceil : ⌈(n : ℚ) - 1 / 2⌉ = n := by
      rw [sub_eq_add_neg, Int.ceil_intCast_add]
      norm_num
    rw [hfloor, hceil, ite_self]

theorem roundsWhole_upward : RoundsWhole upward Scalar.ceil where
  le sign m d hd := by
    cases sign with
    | positive =>
      have hmul : 1 * m ≤ d * m := Nat.mul_le_mul_right m (by omega)
      exact Nat.le_of_lt_succ (Nat.div_lt_of_lt_mul (by rw [Nat.mul_succ]; omega))
    | negative => exact Nat.div_le_self m d
  fraction sign m d hd := by
    cases sign with
    | positive =>
      have hpos : (0 : ℚ) < d := Nat.cast_pos.mpr hd
      have hlower := Nat.div_mul_le_self (m + d - 1) d
      have hupper := Nat.lt_div_mul_add hd (a := m + d - 1)
      change (⌈(m : ℚ) / d⌉ : ℚ) = ((m + d - 1) / d : ℕ)
      generalize (m + d - 1) / d = n at hlower hupper
      have hceil : ⌈(m : ℚ) / d⌉ = n := by
        rw [Int.ceil_eq_iff, lt_div_iff₀ hpos, div_le_iff₀ hpos, Int.cast_natCast, sub_one_mul]
        have hbelow : n * d < m + d := by omega
        have habove : m ≤ n * d := by omega
        constructor
        · rw [sub_lt_iff_lt_add]
          exact_mod_cast hbelow
        · exact_mod_cast habove
      rw [hceil, Int.cast_natCast]
    | negative =>
      change (⌈-((m : ℚ) / d)⌉ : ℚ) = -((m / d : ℕ) : ℚ)
      rw [Int.ceil_neg, Rat.floor_natCast_div_natCast]
      push_cast
      rfl
  intCast n := congrArg Int.cast (Int.ceil_intCast n)

theorem isRounded_whole (sign : Sign) (n : ℕ) :
    IsRounded (.ofModel (.pack (UnpackedFloat.round .binary64 sign n 0))) (signed sign n) := by
  rcases n.eq_zero_or_pos with rfl | hpos
  · rw [Nat.cast_zero, signed_zero]
    exact isRounded_zero sign
  · have hround := isRounded_round sign hpos 0
    rwa [zpow_zero, mul_one] at hround

theorem exists_intCast_infinite : ∃ n : ℤ, infinite = n := by
  refine ⟨(2 ^ 1024 : ℕ), ?_⟩
  have hpow := two_pow_mul_zpow 1024 0
  rw [zpow_zero, mul_one, zero_add] at hpow
  rw [Int.cast_natCast, hpow, infinite]
  rfl

theorem exists_intCast_signed (sign : Sign) (n : ℤ) : ∃ n' : ℤ, signed sign (n : ℚ) = n' := by
  cases sign with
  | positive => exact ⟨n, rfl⟩
  | negative => exact ⟨-n, (Int.cast_neg n).symm⟩

namespace RoundsWhole

variable {whole : Sign → ℕ → ℕ → ℕ} {f : ℚ → ℚ}

theorem spec_of_eq (h : RoundsWhole whole f) (hstored : IsStored u) (hsame : toWhole whole u = u)
    (hwhole : ∃ n : ℤ, valueOf u = n) :
    (IsNumber (.ofModel (.pack (toWhole whole u))) ↔ u.isNaN = false) ∧
      value (.ofModel (.pack (toWhole whole u))) = f (valueOf u) := by
  obtain ⟨n, hn⟩ := hwhole
  rw [IsNumber, value, hsame, unpack_pack hstored, hn, h.intCast]
  exact ⟨Iff.rfl, rfl⟩

/-- What is no number stays none, and every number comes out as its value does. -/
theorem spec (h : RoundsWhole whole f) (hstored : IsStored u) :
    (IsNumber (.ofModel (.pack (toWhole whole u))) ↔ u.isNaN = false) ∧
      value (.ofModel (.pack (toWhole whole u))) = f (valueOf u) := by
  match u with
  | .notANumber | .zero _ => exact h.spec_of_eq trivial rfl ⟨0, Int.cast_zero.symm⟩
  | .infinity sign =>
    obtain ⟨n, hn⟩ := exists_intCast_infinite
    refine h.spec_of_eq hstored rfl ?_
    rw [valueOf, hn]
    exact exists_intCast_signed sign n
  | .finite sign m (.ofNat k) _ =>
    have hvalue : (m : ℚ) * 2 ^ Int.ofNat k = ((m * 2 ^ k : ℕ) : ℤ) := by
      rw [Int.ofNat_eq_natCast, zpow_natCast]
      push_cast
      rfl
    refine h.spec_of_eq hstored rfl ?_
    rw [valueOf, hvalue]
    exact exists_intCast_signed sign _
  | .finite sign m (.negSucc k) _ =>
    have hvalue : (m : ℚ) * 2 ^ Int.negSucc k = m / (2 ^ (k + 1) : ℕ) := by
      rw [zpow_negSucc, Nat.cast_pow, Nat.cast_ofNat, div_eq_mul_inv]
    have hle : whole sign m (2 ^ (k + 1)) ≤ m := h.le sign m (Nat.le_self_pow k.succ_ne_zero 2)
    have hround := isRounded_whole sign (whole sign m (2 ^ (k + 1)))
    rw [toWhole, Nat.one_shiftLeft]
    refine ⟨iff_of_true hround.isNumber rfl, ?_⟩
    rw [valueOf, hvalue, h.fraction sign m (by positivity)]
    exact hround.roundsTo.unique (.signed (rounds_natCast (hle.trans_lt hstored.1.lt)))

end RoundsWhole

@[simp] theorem isNumber_round : IsNumber (Scalar.round x) ↔ IsNumber x :=
  (roundsWhole_nearest.spec (isStored_unpack x)).1

@[simp] theorem value_round (x : Float) : value (Scalar.round x) = Scalar.round (value x) :=
  (roundsWhole_nearest.spec (isStored_unpack x)).2

@[simp] theorem isNumber_ceil : IsNumber (Scalar.ceil x) ↔ IsNumber x :=
  (roundsWhole_upward.spec (isStored_unpack x)).1

@[simp] theorem value_ceil (x : Float) : value (Scalar.ceil x) = ⌈value x⌉ :=
  (roundsWhole_upward.spec (isStored_unpack x)).2

/-! ## Truncation -/

theorem toInt_ofIntClamp (n : ℤ) :
    (Int64.ofIntClamp n).toInt = max (-2 ^ 63) (min n (2 ^ 63 - 1)) := by
  have hmin : Int64.minValue.toInt = -2 ^ 63 := rfl
  have hmax : Int64.maxValue.toInt = 2 ^ 63 - 1 := rfl
  rw [Int64.ofIntClamp]
  split
  · split
    · rw [Int64.toInt_ofIntLE]
      omega
    · omega
  · omega

theorem truncate_signed (sign : Sign) (hq : 0 ≤ q) :
    Scalar.truncate (signed sign q) = sign.apply ⌊q⌋ := by
  cases sign with
  | positive => exact if_pos hq
  | negative =>
    change (if 0 ≤ -q then ⌊-q⌋ else ⌈-q⌉) = -⌊q⌋
    rcases hq.eq_or_lt with rfl | hpos
    · norm_num
    · rw [if_neg (by linarith), Int.ceil_neg]

theorem roundToInt_eq (sign : Sign) (m : ℕ) (e : ℤ) :
    roundToInt sign m e = sign.apply ⌊(m : ℚ) * 2 ^ e⌋ := by
  have hvalue := decreaseExponent_eq m e 0
  have hexponent : (decreaseExponent m e 0).2 ≤ 0 := by
    rw [decreaseExponent]
    dsimp only
    omega
  rw [roundToInt, ← hvalue]
  generalize decreaseExponent m e 0 = lowered at hexponent
  obtain ⟨m', e'⟩ := lowered
  obtain ⟨k, rfl⟩ := Int.exists_eq_neg_ofNat hexponent
  have hpow : (m' : ℚ) * 2 ^ (-(k : ℤ)) = m' / 2 ^ k := by
    rw [zpow_neg, zpow_natCast, div_eq_mul_inv]
  have hshift : (0 - -(k : ℤ)).toNat = k := by omega
  dsimp only [shiftToExponent]
  rw [hpow, hshift, ← Int.natCast_floor_eq_floor (by positivity),
    ((represents_exact m').shiftRight k).floor_eq]

theorem truncate_eq (x : Float) :
    Scalar.truncate x = max (-2 ^ 63) (min (Scalar.truncate (value x)) (2 ^ 63 - 1)) := by
  have hzero : Scalar.truncate (0 : ℚ) = 0 := truncate_signed .positive le_rfl
  have hinfinite : (2 ^ 63 : ℤ) ≤ ⌊infinite⌋ := by
    rw [Int.le_floor]
    exact_mod_cast two_zpow_le_infinite (u := 63) (by norm_num)
  change (Int64.ofIntClamp (x.toModel.unpack.toInt _ _)).toInt = _
  rw [toInt_ofIntClamp, value]
  cases x.toModel.unpack with
  | notANumber | zero => rw [valueOf, hzero, UnpackedFloat.toInt]
  | finite sign m e hm =>
    rw [valueOf, truncate_signed sign (mul_zpow_pos hm e).le, UnpackedFloat.toInt, roundToInt_eq]
  | infinity sign =>
    rw [valueOf, truncate_signed sign infinite_pos.le]
    cases sign with
    | positive =>
      change max (-2 ^ 63) (min (2 ^ 63 - 1) (2 ^ 63 - 1)) =
        max (-2 ^ 63) (min ⌊infinite⌋ (2 ^ 63 - 1))
      omega
    | negative =>
      change max (-2 ^ 63) (min (-2 ^ 63) (2 ^ 63 - 1)) =
        max (-2 ^ 63) (min (-⌊infinite⌋) (2 ^ 63 - 1))
      omega

theorem toNat_eq (x : Float) : toNat x = min (toNat (value x)) (2 ^ 63 - 1) := by
  rw [Scalar.toNat, Scalar.toNat, truncate_eq]
  omega

end ThresholdTrim.Binary
