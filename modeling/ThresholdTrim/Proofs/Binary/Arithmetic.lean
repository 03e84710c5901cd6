import ThresholdTrim.Proofs.Binary.Value

/-!
# Arithmetic rounds the exact result

Sums, products and quotients of finite numbers are computed exactly and then rounded once
(`isRounded_add`, `isRounded_mul`, `isRounded_div`). The machine does not carry the exact result
along: what lies behind its mantissa is kept in two bits, one for the half and one for anything
else, and more places are shifted out into them when the result is brought to its unit.
`Represents` says what a mantissa with its two bits tells of the exact result; shifting keeps that,
and it is enough to round by.
-/

namespace ThresholdTrim.Binary

open Float.Model UnpackedFloat Scalar

variable {x y z : Float} {sign : Sign} {m n : ℕ} {e u : ℤ} {q r t : ℚ} {em : ExtendedMantissa}
  {accuracy : Accuracy} {a b : UnpackedFloat}

/-! ## Residual bits -/

/-- What a round bit stands for. -/
def half (roundBit : Bool) : ℚ := if roundBit then 1 / 2 else 0

/-- The mantissa is the integer part of `t`, and the bits tell how it goes on: by a half or more,
and by anything else. -/
structure Represents (em : ExtendedMantissa) (t : ℚ) : Prop where
  le : em.mantissa + half em.roundBit ≤ t
  lt : t < em.mantissa + half em.roundBit + 1 / 2
  sticky : em.stickyBit = false ↔ t = em.mantissa + half em.roundBit

theorem half_nonneg (roundBit : Bool) : 0 ≤ half roundBit := by
  cases roundBit <;> norm_num [half]

theorem half_le (roundBit : Bool) : half roundBit ≤ 1 / 2 := by
  cases roundBit <;> norm_num [half]

/-- The lowest place becomes the round bit. -/
theorem div_two_add_half (m : ℕ) : ((m / 2 : ℕ) : ℚ) + half (m % 2 != 0) = m / 2 := by
  have hdiv : ((2 * (m / 2) + m % 2 : ℕ) : ℚ) = m := by rw [Nat.div_add_mod]
  push_cast at hdiv
  rcases Nat.mod_two_eq_zero_or_one m with hmod | hmod
  · rw [hmod] at hdiv ⊢
    norm_num [half] at hdiv ⊢
    linarith
  · rw [hmod] at hdiv ⊢
    norm_num [half] at hdiv ⊢
    linarith

namespace Represents

theorem mantissa_le (h : Represents em t) : em.mantissa ≤ t := by
  linarith [h.le, half_nonneg em.roundBit]

theorem lt_mantissa (h : Represents em t) : t < em.mantissa + 1 := by
  linarith [h.lt, half_le em.roundBit]

theorem floor_eq (h : Represents em t) : ⌊t⌋₊ = em.mantissa :=
  (Nat.floor_eq_iff (em.mantissa.cast_nonneg.trans h.mantissa_le)).mpr
    ⟨h.mantissa_le, h.lt_mantissa⟩

theorem shiftRightOne (h : Represents em t) : Represents em.shiftRightOne (t / 2) := by
  have hhalf := div_two_add_half em.mantissa
  have hle := h.mantissa_le
  have hlt := h.lt_mantissa
  refine ⟨?_, ?_, ?_⟩
  · change ((em.mantissa / 2 : ℕ) : ℚ) + half (em.mantissa % 2 != 0) ≤ t / 2
    linarith
  · change t / 2 < ((em.mantissa / 2 : ℕ) : ℚ) + half (em.mantissa % 2 != 0) + 1 / 2
    linarith
  · change (em.roundBit || em.stickyBit) = false ↔
      t / 2 = ((em.mantissa / 2 : ℕ) : ℚ) + half (em.mantissa % 2 != 0)
    rw [hhalf, Bool.or_eq_false_iff, h.sticky, div_left_inj' two_ne_zero]
    have hbit := h.le
    cases hround : em.roundBit with
    | false => simp [half]
    | true =>
      rw [hround] at hbit
      norm_num [half] at hbit ⊢
      linarith

theorem shiftRight (h : Represents em t) (k : ℕ) : Represents (em >>> k) (t / 2 ^ k) := by
  induction k with
  | zero =>
    rw [pow_zero, div_one]
    exact h
  | succ k ih =>
    rw [pow_succ, ← div_div]
    exact ih.shiftRightOne

/-- The bits are enough to round. -/
theorem roundedMantissa_eq (h : Represents em t) : em.roundedMantissa = roundEven t := by
  have hle := h.le
  have hlt := h.lt
  have hsticky := h.sticky
  rw [roundEven, h.floor_eq]
  obtain ⟨m, roundBit, stickyBit⟩ := em
  dsimp only at hle hlt hsticky ⊢
  cases roundBit with
  | false =>
    norm_num [half] at hlt
    rw [if_pos (by linarith)]
    cases stickyBit <;> rfl
  | true =>
    norm_num [half] at hle
    rw [if_neg (by linarith)]
    cases stickyBit with
    | false =>
      have ht := hsticky.mp rfl
      norm_num [half] at ht
      rw [if_neg (by linarith)]
      rfl
    | true =>
      have ht : (m : ℚ) + 1 / 2 ≠ t := fun heq ↦ Bool.noConfusion (hsticky.mpr heq.symm)
      have hgt := lt_of_le_of_ne hle (by norm_num at ht; exact ht)
      rw [if_pos (by linarith)]
      rfl

end Represents

theorem represents_even (m : ℕ) (roundBit : Bool) :
    Represents ⟨m, roundBit, false⟩ (m + half roundBit) where
  le := le_rfl
  lt := by linarith
  sticky := iff_of_true rfl rfl

theorem represents_between {roundBit : Bool} (hlt : m + half roundBit < t)
    (hlt' : t < m + half roundBit + 1 / 2) : Represents ⟨m, roundBit, true⟩ t where
  le := hlt.le
  lt := hlt'
  sticky := iff_of_false nofun hlt.ne'

theorem represents_exact (m : ℕ) : Represents (.ofMantissaAndAccuracy m .exact) m := by
  change Represents ⟨m, false, false⟩ m
  simpa [half] using represents_even m false

theorem represents_fraction (m : ℕ) {d : ℕ} (hd : 0 < d) :
    Represents (.ofMantissaAndAccuracy (m / d) (accuracyOfFraction (m % d) d)) (m / d) := by
  have hpos : (0 : ℚ) < d := Nat.cast_pos.mpr hd
  have hsum : (d : ℚ) * (m / d : ℕ) + (m % d : ℕ) = m := by exact_mod_cast Nat.div_add_mod m d
  have hdiv : (m : ℚ) / d = (m / d : ℕ) + (m % d : ℕ) / d := by
    rw [← hsum, add_div, mul_div_cancel_left₀ _ hpos.ne']
  have hlt : ((m % d : ℕ) : ℚ) / d < 1 := by
    rw [div_lt_one hpos]
    exact Nat.cast_lt.mpr (Nat.mod_lt m hd)
  rw [accuracyOfFraction, hdiv]
  generalize m % d = rest at hlt ⊢
  generalize m / d = whole
  split
  · rename_i hzero
    subst hzero
    simpa using represents_exact whole
  · rename_i hrest
    have hrest : (0 : ℚ) < rest / d := by positivity
    rcases lt_trichotomy (2 * rest) d with hless | heq | hmore
    · have hhalf : (rest : ℚ) / d < 1 / 2 := by
        rw [div_lt_div_iff₀ hpos two_pos]
        exact_mod_cast (by omega : rest * 2 < 1 * d)
      rw [Nat.compare_eq_lt.mpr hless]
      exact represents_between (by norm_num [half]; exact hrest) (by norm_num [half]; linarith)
    · have hhalf : (rest : ℚ) / d = 1 / 2 := by
        rw [div_eq_div_iff hpos.ne' two_ne_zero]
        exact_mod_cast (by omega : rest * 2 = 1 * d)
      rw [Nat.compare_eq_eq.mpr heq, hhalf]
      exact represents_even whole true
    · have hhalf : (1 : ℚ) / 2 < rest / d := by
        rw [div_lt_div_iff₀ two_pos hpos]
        exact_mod_cast (by omega : 1 * d < rest * 2)
      rw [Nat.compare_eq_gt.mpr hmore]
      exact represents_between (by norm_num [half]; linarith) (by norm_num [half]; linarith)

/-! ## Rounding a result -/

theorem targetExponent_eq (m : ℕ) (e : ℤ) :
    Format.binary64.targetExponent (totalExponent m e) = max ((m.log2 : ℤ) + e - 52) (-1074) := by
  change max ((m.log2 : ℤ) + 1 + e - 53) (-1074) = _
  congr 1
  ring

theorem ofMantissaAndAccuracy_mantissa (m : ℕ) (accuracy : Accuracy) :
    (ExtendedMantissa.ofMantissaAndAccuracy m accuracy).mantissa = m := by
  match accuracy with
  | .exact | .inexact .lt | .inexact .eq | .inexact .gt => rfl

/-- The target exponent is the unit about the result. -/
theorem hasUnit_targetExponent (h : Represents (.ofMantissaAndAccuracy m accuracy) t)
    (hwide : 2 ^ 52 ≤ m ∨ e ≤ -1074) :
    e ≤ max ((m.log2 : ℤ) + e - 52) (-1074) ∧
      HasUnit (t * 2 ^ e) (max ((m.log2 : ℤ) + e - 52) (-1074)) := by
  have hpow := two_zpow_pos e
  have hle := h.mantissa_le
  have hlt := h.lt_mantissa
  rw [ofMantissaAndAccuracy_mantissa] at hle hlt
  have hnonneg : 0 ≤ t := m.cast_nonneg.trans hle
  have hplaces : m + 1 ≤ 2 ^ (m.log2 + 1) := Nat.lt_log2_self
  have htop : t < (2 ^ (m.log2 + 1) : ℕ) := hlt.trans_le (by exact_mod_cast hplaces)
  have hfull : 2 ^ 52 ≤ m → 52 ≤ m.log2 := fun hm ↦
    (Nat.le_log2 (Nat.pos_of_ne_zero fun hzero ↦ by omega).ne').mpr hm
  refine ⟨by omega, ⟨by positivity, le_max_right _ _, ?_, ?_⟩⟩
  · calc t * 2 ^ e < (2 ^ (m.log2 + 1) : ℕ) * 2 ^ e := by gcongr
      _ = 2 ^ (e + (m.log2 + 1 : ℕ)) := two_pow_mul_zpow _ _
      _ ≤ 2 ^ (max ((m.log2 : ℤ) + e - 52) (-1074) + 53) := two_zpow_le (by omega)
  · rcases le_or_gt ((m.log2 : ℤ) + e - 52) (-1074) with hlow | hhigh
    · exact .inl (max_eq_right hlow)
    · have hpos : m ≠ 0 := by
        rintro rfl
        rw [Nat.log2_zero] at hhigh
        omega
      refine .inr ?_
      rw [max_eq_left hhigh.le]
      calc (2 : ℚ) ^ ((m.log2 : ℤ) + e - 52 + 52) = (2 ^ m.log2 : ℕ) * 2 ^ e := by
            rw [two_pow_mul_zpow]
            congr 1
            ring
        _ ≤ m * 2 ^ e := by
          gcongr
          exact Nat.log2_self_le hpos
        _ ≤ t * 2 ^ e := by gcongr

theorem shiftToExponent_of_le (h : u ≤ e) :
    shiftToExponent m e .exact u = (.ofMantissaAndAccuracy m .exact, e) := by
  rw [shiftToExponent, Int.toNat_of_nonpos (by omega), Nat.cast_zero, add_zero]
  rfl

/-- A mantissa that rounding has carried over loses its lowest place, which is empty. -/
theorem canonical_carry (hle : n ≤ 2 ^ 53) (hlow : -1074 ≤ u) (hfull : u = -1074 ∨ 2 ^ 52 ≤ n) :
    Canonical (shiftToTargetExponent .binary64 n u .exact).1.mantissa
        (shiftToTargetExponent .binary64 n u .exact).2 ∧
      ((shiftToTargetExponent .binary64 n u .exact).1.mantissa : ℚ) *
        2 ^ (shiftToTargetExponent .binary64 n u .exact).2 = n * 2 ^ u := by
  rw [shiftToTargetExponent, targetExponent_eq]
  rcases hle.lt_or_eq with hlt | rfl
  · have hlog : n.log2 ≤ 52 := by
      rcases n.eq_zero_or_pos with rfl | hpos
      · norm_num
      · exact Nat.le_of_lt_succ ((Nat.log2_lt hpos.ne').mpr hlt)
    rw [shiftToExponent_of_le (by omega)]
    exact ⟨⟨hlt, hlow, hfull⟩, rfl⟩
  · have hshift : max (((2 ^ 53).log2 : ℤ) + u - 52) (-1074) = u + 1 := by
      rw [Nat.log2_two_pow]
      omega
    rw [hshift, shiftToExponent, add_sub_cancel_left]
    change Canonical (2 ^ 52) (u + 1) ∧ ((2 ^ 52 : ℕ) : ℚ) * 2 ^ (u + 1) = (2 ^ 53 : ℕ) * 2 ^ u
    refine ⟨⟨by norm_num, by omega, .inr le_rfl⟩, ?_⟩
    rw [two_pow_mul_zpow, two_pow_mul_zpow]
    congr 1
    push_cast
    ring

/-- Shifted to the unit about the result, the mantissa rounds as the result does. -/
theorem exists_unit (h : Represents (.ofMantissaAndAccuracy m accuracy) t)
    (hwide : 2 ^ 52 ≤ m ∨ e ≤ -1074) :
    ∃ u, HasUnit (t * 2 ^ e) u ∧ (shiftToTargetExponent .binary64 m e accuracy).2 = u ∧
      (shiftToTargetExponent .binary64 m e accuracy).1.roundedMantissa =
        roundEven (t * 2 ^ e / 2 ^ u) := by
  obtain ⟨hle, hunit⟩ := hasUnit_targetExponent h hwide
  refine ⟨_, hunit, ?_⟩
  rw [shiftToTargetExponent, targetExponent_eq, shiftToExponent]
  generalize max ((m.log2 : ℤ) + e - 52) (-1074) = u at hle
  obtain ⟨k, rfl⟩ := Int.le.dest hle
  have hpow : t * 2 ^ e / 2 ^ (e + k) = t / 2 ^ k := by
    rw [zpow_add₀ two_ne_zero, zpow_natCast, mul_comm t, mul_div_mul_left _ _ (two_zpow_pos e).ne']
  dsimp only
  rw [add_sub_cancel_left, Int.toNat_natCast, hpow]
  exact ⟨rfl, (h.shiftRight k).roundedMantissa_eq⟩

/-- The result `q`, rounded. -/
structure IsRounded (x : Float) (q : ℚ) : Prop where
  isNumber : IsNumber x
  roundsTo : RoundsTo q (value x)

theorem RoundsTo.signed (h : Rounds q r) : RoundsTo (signed sign q) (Binary.signed sign r) := by
  cases sign with
  | positive => exact .nonneg h
  | negative => exact .nonpos h

theorem isRounded_pack (h : Canonical m e) (hm : 0 < m)
    (hround : Rounds q (min (m * 2 ^ e) infinite)) :
    IsRounded (.ofModel (.pack (.finite sign m e hm))) (signed sign q) := by
  refine ⟨?_, ?_⟩
  · change (Float.Model.pack (.finite sign m e hm)).unpack.isNaN = false
    rcases le_or_gt e 971 with hle | hlt
    · have hstored : IsStored (.finite sign m e hm) := ⟨h, hle⟩
      rw [unpack_pack hstored]
      rfl
    · rw [unpack_pack_of_lt hlt]
      rfl
  · change RoundsTo (signed sign q) (valueOf (Float.Model.pack (.finite sign m e hm)).unpack)
    rw [valueOf_pack h]
    exact .signed hround

theorem isRounded_roundWithAccuracy (sign : Sign)
    (h : Represents (.ofMantissaAndAccuracy m accuracy) t) (hwide : 2 ^ 52 ≤ m ∨ e ≤ -1074) :
    IsRounded (.ofModel (.pack (roundWithAccuracy .binary64 sign m e accuracy)))
      (signed sign (t * 2 ^ e)) := by
  obtain ⟨u, hunit, hexponent, hmantissa⟩ := exists_unit h hwide
  rw [roundWithAccuracy]
  generalize shiftToTargetExponent .binary64 m e accuracy = first at hexponent hmantissa
  obtain ⟨em, e₁⟩ := first
  obtain rfl : e₁ = u := hexponent
  dsimp only at hmantissa ⊢
  obtain ⟨hcanonical, hvalue⟩ := canonical_carry (hmantissa.trans_le hunit.roundEven_le) hunit.low
    (hmantissa ▸ hunit.le_roundEven)
  generalize shiftToTargetExponent .binary64 em.roundedMantissa e₁ .exact = final
    at hcanonical hvalue ⊢
  obtain ⟨⟨n, _, _⟩, e₂⟩ := final
  dsimp only at hcanonical hvalue ⊢
  have hround : Rounds (t * 2 ^ e) (min (n * 2 ^ e₂) infinite) := by
    refine ⟨e₁, hunit, ?_⟩
    rw [hvalue, hmantissa]
  split
  · rename_i hzero
    rw [hzero, Nat.cast_zero, zero_mul, min_eq_left infinite_pos.le] at hround
    have hstored : IsStored (.zero sign) := trivial
    refine ⟨?_, ?_⟩
    · change (Float.Model.pack (.zero sign)).unpack.isNaN = false
      rw [unpack_pack hstored]
      rfl
    · change RoundsTo _ (valueOf (Float.Model.pack (.zero sign)).unpack)
      rw [unpack_pack hstored, valueOf, ← signed_zero]
      exact .signed hround
  · exact isRounded_pack hcanonical _ hround

theorem isRounded_of_isStored {u : UnpackedFloat} (h : IsStored u) (hnumber : u.isNaN = false) :
    IsRounded (.ofModel (.pack u)) (valueOf u) := by
  have hvalue : value (.ofModel (.pack u)) = valueOf u := congrArg valueOf (unpack_pack h)
  refine ⟨?_, ?_⟩
  · change (Float.Model.pack u).unpack.isNaN = false
    rwa [unpack_pack h]
  · rw [← hvalue]
    exact roundsTo_value _

theorem isRounded_zero (sign : Sign) : IsRounded (.ofModel (.pack (.zero sign))) 0 :=
  isRounded_of_isStored trivial rfl

/-- Lowering an exponent keeps the value. -/
theorem decreaseExponent_eq (m : ℕ) (e u : ℤ) :
    ((decreaseExponent m e u).1 : ℚ) * 2 ^ (decreaseExponent m e u).2 = m * 2 ^ e := by
  rw [decreaseExponent]
  dsimp only
  rw [Nat.shiftLeft_eq, natCast_mul_zpow, sub_add_cancel]

theorem isRounded_round (sign : Sign) (hm : 0 < m) (e : ℤ) :
    IsRounded (.ofModel (.pack (UnpackedFloat.round .binary64 sign m e)))
      (signed sign (m * 2 ^ e)) := by
  have hvalue := decreaseExponent_eq m e (max ((m.log2 : ℤ) + e - 52) (-1074))
  have hwide : 2 ^ 52 ≤ (decreaseExponent m e (max ((m.log2 : ℤ) + e - 52) (-1074))).1 ∨
      (decreaseExponent m e (max ((m.log2 : ℤ) + e - 52) (-1074))).2 ≤ -1074 := by
    rw [decreaseExponent]
    generalize hk : (e - max ((m.log2 : ℤ) + e - 52) (-1074)).toNat = k
    dsimp only
    rcases le_or_gt (e - k) (-1074) with hlow | hhigh
    · exact .inr hlow
    · refine .inl ?_
      calc 2 ^ 52 ≤ 2 ^ (m.log2 + k) := Nat.pow_le_pow_right two_pos (by omega)
        _ = 2 ^ m.log2 * 2 ^ k := pow_add _ _ _
        _ ≤ m * 2 ^ k := by
          gcongr
          exact Nat.log2_self_le hm.ne'
        _ = m <<< k := (Nat.shiftLeft_eq m k).symm
  rw [UnpackedFloat.round, targetExponent_eq]
  rw [← hvalue]
  exact isRounded_roundWithAccuracy sign (represents_exact _) hwide

theorem isRounded_normalize (n e : ℤ) :
    IsRounded (.ofModel (.pack (UnpackedFloat.normalize .binary64 n e .positive))) (n * 2 ^ e) := by
  rw [UnpackedFloat.normalize.eq_def]
  split
  · rename_i hcompare
    have hneg : n < 0 := Int.compare_eq_lt.mp hcompare
    have hround := isRounded_round .negative (m := (-n).toNat) (by omega) e
    have hcast : (((-n).toNat : ℕ) : ℚ) = -n := by
      exact_mod_cast Int.toNat_of_nonneg (by omega)
    rwa [hcast, signed, neg_mul, neg_neg] at hround
  · rename_i hcompare
    obtain rfl : n = 0 := Int.compare_eq_eq.mp hcompare
    rw [Int.cast_zero, zero_mul]
    exact isRounded_zero _
  · rename_i hcompare
    have hpos : 0 < n := Int.compare_eq_gt.mp hcompare
    have hround := isRounded_round .positive (m := n.toNat) (by omega) e
    have hcast : ((n.toNat : ℕ) : ℚ) = n := by
      exact_mod_cast Int.toNat_of_nonneg hpos.le
    rwa [hcast, signed] at hround

/-! ## Sums, products and quotients -/

theorem signed_mul_signed (sign sign' : Sign) (q r : ℚ) :
    signed (sign * sign') (q * r) = signed sign q * signed sign' r := by
  cases sign with
  | positive =>
    cases sign' with
    | positive => rfl
    | negative => exact (mul_neg q r).symm
  | negative =>
    cases sign' with
    | positive => exact (neg_mul q r).symm
    | negative => exact (neg_mul_neg q r).symm

/-- Brought down to a common exponent, a signed mantissa is an integer. -/
theorem valueOf_finite {hm : 0 < m} (h : u ≤ e) : valueOf (.finite sign m e hm) =
    (sign.apply (decreaseExponent m e u).1 : ℤ) * 2 ^ u := by
  have hvalue := decreaseExponent_eq m e u
  have hexponent : (decreaseExponent m e u).2 = u := by
    rw [decreaseExponent]
    dsimp only
    omega
  rw [hexponent] at hvalue
  rw [valueOf, ← hvalue]
  cases sign with
  | positive => rw [signed, Sign.apply, Int.cast_natCast]
  | negative => rw [signed, Sign.apply, Int.cast_neg, Int.cast_natCast, neg_mul]

theorem isRounded_pack_add (ha : IsStored a) (hb : IsStored b) (hfinite : a.isFinite = true)
    (hfinite' : b.isFinite = true) :
    IsRounded (.ofModel (.pack (UnpackedFloat.add .binary64 a b))) (valueOf a + valueOf b) := by
  match a, b, hfinite, hfinite', ha, hb with
  | .zero _, .zero _, _, _, _, _ =>
    rw [valueOf, valueOf, add_zero, UnpackedFloat.add]
    split <;> exact isRounded_zero _
  | .zero _, .finite .., _, _, _, hb =>
    rw [valueOf, zero_add]
    exact isRounded_of_isStored hb rfl
  | .finite .., .zero _, _, _, ha, _ =>
    rw [valueOf.eq_def (.zero _), add_zero]
    exact isRounded_of_isStored ha rfl
  | .finite .., .finite .., _, _, _, _ =>
    rw [valueOf_finite (min_le_left _ _), valueOf_finite (min_le_right _ _), ← add_mul,
      ← Int.cast_add]
    exact isRounded_normalize _ _

theorem isRounded_pack_mul (ha : IsStored a) (hb : IsStored b) (hfinite : a.isFinite = true)
    (hfinite' : b.isFinite = true) :
    IsRounded (.ofModel (.pack (UnpackedFloat.mul .binary64 a b))) (valueOf a * valueOf b) := by
  match a, b, hfinite, hfinite', ha, hb with
  | .zero _, .zero _, _, _, _, _ | .zero _, .finite .., _, _, _, _ =>
    rw [valueOf, zero_mul]
    exact isRounded_zero _
  | .finite .., .zero _, _, _, _, _ =>
    rw [valueOf.eq_def (.zero _), mul_zero]
    exact isRounded_zero _
  | .finite sign m e hm, .finite sign' m' e' hm', _, _, ha, hb =>
    have hwide : 2 ^ 52 ≤ m * m' ∨ e + e' ≤ -1074 := by
      rcases ha.1.full with hlow | hfull
      · rcases hb.1.full with hlow' | hfull'
        · exact .inr (by omega)
        · exact .inl (hfull'.trans (Nat.le_mul_of_pos_left m' hm))
      · exact .inl (hfull.trans (Nat.le_mul_of_pos_right m hm'))
    have hproduct := isRounded_roundWithAccuracy (sign * sign') (represents_exact (m * m')) hwide
    have hvalue : ((m * m' : ℕ) : ℚ) * 2 ^ (e + e') = (m * 2 ^ e) * (m' * 2 ^ e') := by
      rw [zpow_add₀ two_ne_zero, Nat.cast_mul]
      ring
    rwa [hvalue, signed_mul_signed] at hproduct

theorem signed_div_signed (sign sign' : Sign) (q r : ℚ) :
    signed (sign / sign') (q / r) = signed sign q / signed sign' r := by
  cases sign with
  | positive =>
    cases sign' with
    | positive => rfl
    | negative => exact (div_neg q).symm
  | negative =>
    cases sign' with
    | positive => exact (neg_div r q).symm
    | negative => exact (neg_div_neg_eq q r).symm

/-- The division is carried far enough to round its quotient. -/
theorem two_pow_le_divCore {m m' k : ℕ} {e e' u : ℤ} (hm : 0 < m) (hm' : 0 < m')
    (hu : u = min (e - e') (max ((m.log2 : ℤ) + e - (m'.log2 + e') - 53) (-1074)))
    (hk : k = (e - e' - u).toNat) : 2 ^ 52 ≤ m <<< k / m' ∨ u ≤ -1074 := by
  rcases le_or_gt u (-1074) with hlow | hhigh
  · exact .inr hlow
  · refine .inl ?_
    rw [Nat.le_div_iff_mul_le hm', Nat.shiftLeft_eq]
    calc 2 ^ 52 * m' ≤ 2 ^ 52 * 2 ^ (m'.log2 + 1) := by
          gcongr
          exact Nat.lt_log2_self.le
      _ = 2 ^ (52 + (m'.log2 + 1)) := (pow_add _ _ _).symm
      _ ≤ 2 ^ (m.log2 + k) := Nat.pow_le_pow_right two_pos (by omega)
      _ = 2 ^ m.log2 * 2 ^ k := pow_add _ _ _
      _ ≤ m * 2 ^ k := by
        gcongr
        exact Nat.log2_self_le hm.ne'

theorem isRounded_pack_div (hfinite : a.isFinite = true) (hfinite' : b.isFinite = true)
    (hne : valueOf b ≠ 0) :
    IsRounded (.ofModel (.pack (UnpackedFloat.div .binary64 a b))) (valueOf a / valueOf b) := by
  match a, b, hfinite, hfinite', hne with
  | .zero _, .zero _, _, _, hne | .finite .., .zero _, _, _, hne => exact absurd rfl hne
  | .zero _, .finite .., _, _, _ =>
    rw [valueOf, zero_div]
    exact isRounded_zero _
  | .finite sign m e hm, .finite sign' m' e' hm', _, _, _ =>
    have htarget : Format.binary64.targetExponent (totalExponent m e - totalExponent m' e') =
        max ((m.log2 : ℤ) + e - (m'.log2 + e') - 53) (-1074) := by
      change max ((m.log2 : ℤ) + 1 + e - (m'.log2 + 1 + e') - 53) (-1074) = _
      congr 1
      ring
    rw [UnpackedFloat.div, divCore, htarget]
    dsimp only
    generalize hu : min (e - e') (max ((m.log2 : ℤ) + e - (m'.log2 + e') - 53) (-1074)) = u
    generalize hk : (e - e' - u).toNat = k
    have hquotient := isRounded_roundWithAccuracy (sign / sign') (represents_fraction (m <<< k) hm')
      (two_pow_le_divCore hm hm' hu.symm hk.symm)
    have hvalue : ((m <<< k : ℕ) : ℚ) / m' * 2 ^ u = (m * 2 ^ e) / (m' * 2 ^ e') := by
      have hexponent : u + k = e - e' := by omega
      rw [Nat.shiftLeft_eq, div_mul_eq_mul_div, natCast_mul_zpow, hexponent,
        zpow_sub₀ two_ne_zero, mul_div_mul_comm, mul_div_right_comm]
    rwa [hvalue, signed_div_signed] at hquotient

theorem add_eq (x y : Float) :
    x + y = .ofModel (.pack (UnpackedFloat.add .binary64 x.toModel.unpack y.toModel.unpack)) := rfl

theorem div_eq (x y : Float) :
    x / y = .ofModel (.pack (UnpackedFloat.div .binary64 x.toModel.unpack y.toModel.unpack)) := rfl

theorem isRounded_add (hx : isFinite x = true) (hy : isFinite y = true) :
    IsRounded (x + y) (value x + value y) :=
  isRounded_pack_add (isStored_unpack x) (isStored_unpack y) hx hy

theorem isRounded_mul (hx : isFinite x = true) (hy : isFinite y = true) :
    IsRounded (x * y) (value x * value y) :=
  isRounded_pack_mul (isStored_unpack x) (isStored_unpack y) hx hy

theorem isRounded_div (hx : isFinite x = true) (hy : isFinite y = true) (hne : value y ≠ 0) :
    IsRounded (x / y) (value x / value y) :=
  isRounded_pack_div hx hy hne

/-! ## Results that are stored as they are -/

theorem unpack_neg (x : Float) : (-x).toModel.unpack = x.toModel.unpack.neg := by
  refine unpack_pack ?_
  have hstored := isStored_unpack x
  generalize x.toModel.unpack = u at hstored
  cases u <;> exact hstored

theorem unpack_abs (x : Float) : (Scalar.abs x).toModel.unpack = x.toModel.unpack.abs := by
  refine unpack_pack ?_
  have hstored := isStored_unpack x
  generalize x.toModel.unpack = u at hstored
  cases u <;> exact hstored

@[simp] theorem isNumber_neg : IsNumber (-x) ↔ IsNumber x := by
  rw [IsNumber, IsNumber, unpack_neg]
  cases x.toModel.unpack <;> rfl

@[simp] theorem value_neg (x : Float) : value (-x) = -value x := by
  have hsign : ∀ (sign : Sign) q, signed (-sign) q = -signed sign q := by
    intro sign q
    cases sign with
    | positive => rfl
    | negative => exact (neg_neg q).symm
  rw [value, value, unpack_neg]
  cases x.toModel.unpack with
  | infinity | finite => exact hsign _ _
  | zero | notANumber => exact neg_zero.symm

@[simp] theorem isNumber_abs : IsNumber (Scalar.abs x) ↔ IsNumber x := by
  rw [IsNumber, IsNumber, unpack_abs]
  cases x.toModel.unpack <;> rfl

@[simp] theorem value_abs (x : Float) : value (Scalar.abs x) = |value x| := by
  rw [value, value, unpack_abs]
  cases x.toModel.unpack with
  | infinity => exact ((abs_signed _ _).trans (abs_of_pos infinite_pos)).symm
  | zero | notANumber => exact abs_zero.symm
  | finite sign m e hm => exact ((abs_signed _ _).trans (abs_of_pos (mul_zpow_pos hm e))).symm

namespace IsRounded

/-- A result that is stored already is not changed. -/
theorem value_eq (h : IsRounded x (value y)) : value x = value y :=
  h.roundsTo.unique (roundsTo_value y)

theorem value_le (h : IsRounded x q) (hle : q ≤ value y) : value x ≤ value y :=
  h.roundsTo.mono (roundsTo_value y) hle

theorem le_value (h : IsRounded x q) (hle : value y ≤ q) : value y ≤ value x :=
  (roundsTo_value y).mono h.roundsTo hle

theorem value_natCast (h : IsRounded x n) (hn : n < 2 ^ 53) : value x = n :=
  h.roundsTo.unique (.nonneg (rounds_natCast hn))

theorem abs_value_le (h : IsRounded x q) (hr : RoundsTo r r) (hq : |q| ≤ r) : |value x| ≤ r := by
  obtain ⟨hlow, hhigh⟩ := abs_le.mp hq
  exact abs_le.mpr ⟨hr.neg.mono h.roundsTo hlow, h.roundsTo.mono hr hhigh⟩

/-- A result not beyond a number that is stored is finite. -/
theorem isFinite (h : IsRounded x q) (hr : RoundsTo r r) (hq : |q| ≤ r) (hlt : r < infinite) :
    isFinite x = true :=
  isFinite_iff.mpr ⟨h.isNumber, (h.abs_value_le hr hq).trans_lt hlt⟩

end IsRounded

end ThresholdTrim.Binary
