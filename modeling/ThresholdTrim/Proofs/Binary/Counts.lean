import ThresholdTrim.Proofs.Binary.Whole

/-!
# Counts and laws in binary floating point

A count of up to 53 binary places is read without loss (`value_ofCount`), and a larger one is
rounded like any result. That settles comparisons with counts, and with them the laws that
calibration asks of its scalars: each follows from what the exact results obey, since rounding keeps
order and leaves counts as they are.

Rounding says nothing of infinite operands, though, and no law excludes them. A sum or a product
with infinity is infinite as well or is not a number (`add_infinity`, `mul_infinity`), and what is
not a number is never below anything.
-/

namespace ThresholdTrim

open Scalar

namespace Binary

open Float.Model UnpackedFloat

variable {x y z : Float} {sign : Sign} {m n : ℕ} {e : ℤ} {u v : UnpackedFloat}

/-! ## Counts -/

theorem value_one : value (Float.ofBits 4607182418800017408) = 1 := by
  have hunpack : (Float.ofBits 4607182418800017408).toModel.unpack =
      .finite .positive (2 ^ 52) (-52) (by norm_num) := by rfl
  rw [value, hunpack, valueOf, signed, two_pow_mul_zpow]
  norm_num

/-- A count is read as a decimal without a decimal point. -/
theorem ofCount_eq (hn : n < 2 ^ 53) :
    (ofCount n : Float) = n.toUInt64.toFloat * Float.ofBits 4607182418800017408 := by
  change Float.ofScientific n false 0 = _
  rw [Float.ofScientific, dif_pos ⟨hn, Nat.zero_le _⟩]
  rfl

theorem isRounded_ofCount_of_lt (hn : n < 2 ^ 53) : IsRounded (ofCount n : Float) n := by
  have hword : n.toUInt64.toNat = n := Nat.mod_eq_of_lt (hn.trans (by norm_num))
  have hfloat : IsRounded n.toUInt64.toFloat n := by
    have hnormalize : IsRounded n.toUInt64.toFloat ((n.toUInt64.toNat : ℤ) * 2 ^ (0 : ℤ)) :=
      isRounded_normalize _ 0
    rwa [Int.cast_natCast, hword, zpow_zero, mul_one] at hnormalize
  have hcount := RoundsTo.nonneg (rounds_natCast hn)
  have hfinite : isFinite n.toUInt64.toFloat = true :=
    hfloat.isFinite hcount (abs_of_nonneg n.cast_nonneg).le (natCast_lt_infinite hn)
  have hproduct := isRounded_mul hfinite (y := Float.ofBits 4607182418800017408) (by rfl)
  rwa [value_one, mul_one, hfloat.value_natCast hn, ← ofCount_eq hn] at hproduct

/-- However large it is, a count is rounded once. -/
theorem isRounded_ofCount (n : ℕ) : IsRounded (ofCount n : Float) n := by
  rcases Nat.lt_or_ge n (2 ^ 53) with hlt | hge
  · exact isRounded_ofCount_of_lt hlt
  · have hread : (ofCount n : Float) = .ofModel (Float.Model.ofScientific n 0) := by
      change Float.ofScientific n false 0 = _
      rw [Float.ofScientific, dif_neg (by omega)]
      rfl
    have hlow : (0 : ℤ) ≤ 2 ^ Format.exponentBits .binary64 := by positivity
    -- the decimal is multiplied by a power of ten, which is one here
    have hwide : 2 ^ 52 ≤ n <<< 53 := by
      rw [Nat.shiftLeft_eq]
      omega
    have hround := isRounded_roundWithAccuracy (e := -53) .positive
      (represents_exact (n <<< 53)) (.inl hwide)
    have hvalue : ((n <<< 53 : ℕ) : ℚ) * 2 ^ (-53 : ℤ) = n := by
      rw [Nat.shiftLeft_eq, natCast_mul_zpow]
      norm_num
    rw [signed, hvalue] at hround
    rw [hread, Float.Model.ofScientific, UnpackedFloat.ofScientific, dif_neg (by omega),
      if_neg (by omega), if_neg (by omega), if_pos le_rfl, UnpackedFloat.mul, Int.toNat_zero,
      pow_zero, mul_one]
    exact hround

@[simp] theorem isNumber_ofCount (n : ℕ) : IsNumber (ofCount n : Float) :=
  (isRounded_ofCount n).isNumber

@[simp] theorem value_ofCount (hn : n < 2 ^ 53) : value (ofCount n : Float) = n :=
  (isRounded_ofCount n).value_natCast hn

theorem isFinite_ofCount (hn : n < 2 ^ 53) : isFinite (ofCount n : Float) = true :=
  (isRounded_ofCount n).isFinite (.nonneg (rounds_natCast hn)) (abs_of_nonneg n.cast_nonneg).le
    (natCast_lt_infinite hn)

theorem value_ofCount_mono (h : m ≤ n) : value (ofCount m : Float) ≤ value (ofCount n) :=
  (isRounded_ofCount m).roundsTo.mono (isRounded_ofCount n).roundsTo (Nat.cast_le.mpr h)

theorem zero_le_ofCount (n : ℕ) : le (ofCount 0) (ofCount n : Float) = true :=
  le_iff.mpr ⟨isNumber_ofCount 0, isNumber_ofCount n, value_ofCount_mono n.zero_le⟩

/-- A count above another is read as a larger number, if the other one is small enough. -/
theorem le_of_value_ofCount_le (hn : n + 1 < 2 ^ 53) (h : value (ofCount m : Float) ≤ n) :
    m ≤ n := by
  by_contra hlt
  have hnext := (value_ofCount_mono (not_le.mp hlt)).trans h
  rw [value_ofCount hn] at hnext
  exact absurd (Nat.cast_le.mp hnext) n.lt_irrefl

/-! ## The larger and the smaller of two -/

theorem larger_def (x y : Float) :
    larger x y = if x.isNaN then y else if y.isNaN then x else if x < y then y else x := rfl

theorem smaller_def (x y : Float) :
    smaller x y = if x.isNaN then y else if y.isNaN then x else if y < x then y else x := rfl

theorem isNaN_eq_false_iff : x.isNaN = false ↔ IsNumber x := Iff.rfl

theorem isNaN_iff : x.isNaN = true ↔ ¬IsNumber x := by
  rw [← isNaN_eq_false_iff, Bool.not_eq_false]

theorem lt_iff_value_lt (hx : IsNumber x) (hy : IsNumber y) : x < y ↔ value x < value y := by
  rw [← decide_eq_true_iff (p := x < y)]
  exact lt_iff.trans (by simp [hx, hy])

theorem larger_of_not_isNumber (hx : ¬IsNumber x) : larger x y = y := by
  rw [larger_def, if_pos (isNaN_iff.mpr hx)]

theorem larger_of_isNumber (hx : IsNumber x) (hy : ¬IsNumber y) : larger x y = x := by
  rw [larger_def, isNaN_eq_false_iff.mpr hx, if_neg Bool.false_ne_true, if_pos (isNaN_iff.mpr hy)]

theorem smaller_of_not_isNumber (hx : ¬IsNumber x) : smaller x y = y := by
  rw [smaller_def, if_pos (isNaN_iff.mpr hx)]

theorem larger_eq_or (x y : Float) : larger x y = x ∨ larger x y = y := by
  rw [larger_def]
  split_ifs <;> simp

theorem larger_eq (hx : IsNumber x) (hy : IsNumber y) :
    larger x y = if value x < value y then y else x := by
  rw [larger_def, isNaN_eq_false_iff.mpr hx, isNaN_eq_false_iff.mpr hy, if_neg Bool.false_ne_true,
    if_neg Bool.false_ne_true, if_congr (lt_iff_value_lt hx hy) rfl rfl]

theorem smaller_eq (hx : IsNumber x) (hy : IsNumber y) :
    smaller x y = if value y < value x then y else x := by
  rw [smaller_def, isNaN_eq_false_iff.mpr hx, isNaN_eq_false_iff.mpr hy, if_neg Bool.false_ne_true,
    if_neg Bool.false_ne_true, if_congr (lt_iff_value_lt hy hx) rfl rfl]

/-! ## Infinity -/

theorem value_le_infinite (x : Float) : |value x| ≤ infinite := by
  have hstored := isStored_unpack x
  rw [value]
  generalize x.toModel.unpack = u at hstored
  cases u with
  | infinity sign => exact ((abs_signed _ _).trans (abs_of_pos infinite_pos)).le
  | zero | notANumber => exact abs_zero.trans_le infinite_pos.le
  | finite => exact (abs_valueOf_lt hstored).le

/-- A number is finite, or one of the two infinities. -/
theorem isFinite_or_infinity (hx : IsNumber x) :
    isFinite x = true ∨ ∃ sign, x.toModel.unpack = .infinity sign := by
  change x.toModel.unpack.isNaN = false at hx
  change x.toModel.unpack.isFinite = true ∨ _
  generalize x.toModel.unpack = u at hx
  cases u with
  | notANumber => cases hx
  | infinity sign => exact .inr ⟨sign, rfl⟩
  | zero | finite => exact .inl rfl

theorem isFinite_or_positive (hx : le (ofCount 0) x = true) :
    isFinite x = true ∨ x.toModel.unpack = .infinity .positive := by
  rw [zero_le_iff] at hx
  change x.toModel.unpack.isFinite = true ∨ _
  generalize x.toModel.unpack = u at hx
  match u, hx with
  | .infinity .positive, _ => exact .inr rfl
  | .zero _, _ | .finite .positive .., _ => exact .inl rfl

theorem not_isNumber : ¬IsNumber (.ofModel (.pack .notANumber)) := nofun

theorem isNumber_of_add (h : IsNumber (x + y)) : IsNumber x ∧ IsNumber y := by
  rw [add_eq] at h
  rw [IsNumber, IsNumber]
  generalize x.toModel.unpack = u at h ⊢
  generalize y.toModel.unpack = v at h ⊢
  cases u with
  | notANumber => exact absurd h not_isNumber
  | infinity | zero | finite =>
    cases v with
    | notANumber => exact absurd h not_isNumber
    | infinity | zero | finite => exact ⟨rfl, rfl⟩

theorem isNumber_of_div (h : IsNumber (x / y)) : IsNumber x := by
  rw [div_eq] at h
  rw [IsNumber]
  generalize x.toModel.unpack = u at h ⊢
  cases u with
  | notANumber => exact absurd h not_isNumber
  | infinity | zero | finite => rfl

/-- An infinite result. -/
theorem value_of_infinity (h : u = .infinity sign ∨ u = .notANumber)
    (hnumber : IsNumber (.ofModel (.pack u))) :
    value (.ofModel (.pack u)) = signed sign infinite := by
  rcases h with rfl | rfl
  · exact congrArg valueOf (unpack_pack_infinity sign)
  · exact absurd hnumber not_isNumber

theorem add_infinity (h : u = .infinity sign ∨ v = .infinity sign) :
    UnpackedFloat.add .binary64 u v = .infinity sign ∨
      UnpackedFloat.add .binary64 u v = .notANumber := by
  rcases h with rfl | rfl
  · cases v with
    | infinity sign' => cases sign <;> cases sign' <;> simp [UnpackedFloat.add]
    | zero | finite => exact .inl rfl
    | notANumber => exact .inr rfl
  · cases u with
    | infinity sign' => cases sign <;> cases sign' <;> simp [UnpackedFloat.add]
    | zero | finite => exact .inl rfl
    | notANumber => exact .inr rfl

theorem mul_infinity
    (h : u = .infinity sign ∧ IsNonneg v ∨ IsNonneg u ∧ v = .infinity sign) :
    UnpackedFloat.mul .binary64 u v = .infinity sign ∨
      UnpackedFloat.mul .binary64 u v = .notANumber := by
  rcases h with ⟨rfl, hv⟩ | ⟨hu, rfl⟩
  · match v, hv with
    | .infinity .positive, _ | .finite .positive .., _ => cases sign <;> exact .inl rfl
    | .zero _, _ => exact .inr rfl
  · match u, hu with
    | .infinity .positive, _ | .finite .positive .., _ => cases sign <;> exact .inl rfl
    | .zero _, _ => exact .inr rfl

/-! ## Comparisons with counts -/

theorem ofCount_le_iff (hn : n < 2 ^ 53) :
    le (ofCount n) x = true ↔ IsNumber x ∧ (n : ℚ) ≤ value x := by
  rw [le_iff, value_ofCount hn]
  simp

theorem le_ofCount_iff (hn : n < 2 ^ 53) :
    le x (ofCount n) = true ↔ IsNumber x ∧ value x ≤ n := by
  rw [le_iff, value_ofCount hn]
  simp

theorem ofCount_lt_iff (hn : n < 2 ^ 53) :
    lt (ofCount n) x = true ↔ IsNumber x ∧ (n : ℚ) < value x := by
  rw [lt_iff, value_ofCount hn]
  simp

theorem lt_ofCount_iff (hn : n < 2 ^ 53) :
    lt x (ofCount n) = true ↔ IsNumber x ∧ value x < n := by
  rw [lt_iff, value_ofCount hn]
  simp

theorem lt_ofCount_eq_false_iff (hn : n < 2 ^ 53) :
    lt x (ofCount n) = false ↔ (IsNumber x → (n : ℚ) ≤ value x) := by
  rw [lt_eq_false_iff, value_ofCount hn]
  simp

/-! ## Results of arithmetic -/

theorem le_value_add (hx : le (ofCount 0) x = true) (hy : le (ofCount 0) y = true)
    (hnumber : IsNumber (x + y)) (hle : value z ≤ value x + value y) :
    value z ≤ value (x + y) := by
  have hinfinite : x.toModel.unpack = .infinity .positive ∨
      y.toModel.unpack = .infinity .positive → value z ≤ value (x + y) := by
    intro h
    have hsum : value (x + y) = infinite := value_of_infinity (add_infinity h) hnumber
    exact hsum ▸ (abs_le.mp (value_le_infinite z)).2
  rcases isFinite_or_positive hx with hx | hx
  · rcases isFinite_or_positive hy with hy | hy
    · exact (isRounded_add hx hy).le_value hle
    · exact hinfinite (.inr hy)
  · exact hinfinite (.inl hx)

theorem isNumber_add (hx : isFinite x = true) (hy : IsNumber y) : IsNumber (x + y) := by
  rcases isFinite_or_infinity hy with hfinite | ⟨sign, hinfinite⟩
  · exact (isRounded_add hx hfinite).isNumber
  · change x.toModel.unpack.isFinite = true at hx
    have hnumber : IsNumber (.ofModel (.pack (.infinity sign))) :=
      (isRounded_of_isStored (u := .infinity sign) trivial rfl).isNumber
    rw [add_eq, hinfinite]
    generalize x.toModel.unpack = u at hx
    match u, hx with
    | .zero _, _ | .finite .., _ => exact hnumber

/-- Adding something finite to infinity has no effect. -/
theorem value_add_of_infinity (hx : isFinite x = true) (hy : y.toModel.unpack = .infinity sign) :
    value (x + y) = value y := by
  have hnumber : IsNumber y := by
    rw [IsNumber, hy]
    rfl
  have hvalue : value y = signed sign infinite := congrArg valueOf hy
  rw [hvalue]
  exact value_of_infinity (add_infinity (.inr hy)) (isNumber_add hx hnumber)

/-- Sums with something finite keep order. -/
theorem add_le_add_of_isFinite (hz : isFinite z = true) (hle : le x y = true) :
    le (z + x) (z + y) = true := by
  obtain ⟨hx, hy, hle⟩ := le_iff.mp hle
  refine le_iff.mpr ⟨isNumber_add hz hx, isNumber_add hz hy, ?_⟩
  rcases isFinite_or_infinity hx with hx' | ⟨sign, hx'⟩
  · rcases isFinite_or_infinity hy with hy' | ⟨sign, hy'⟩
    · exact (isRounded_add hz hx').roundsTo.mono (isRounded_add hz hy').roundsTo (by gcongr)
    · -- an infinity that is at least a finite number is the positive one
      have hvalue : value y = signed sign infinite := congrArg valueOf hy'
      have hlow := (abs_lt.mp (isFinite_iff.mp hx').2).1
      rw [value_add_of_infinity hz hy']
      rw [hvalue] at hle ⊢
      cases sign with
      | positive => exact (abs_le.mp (value_le_infinite _)).2
      | negative => exact absurd hle hlow.not_ge
  · have hvalue : value x = signed sign infinite := congrArg valueOf hx'
    rw [value_add_of_infinity hz hx']
    rcases isFinite_or_infinity hy with hy' | ⟨sign', hy'⟩
    · have hhigh := (abs_lt.mp (isFinite_iff.mp hy').2).2
      rw [hvalue] at hle ⊢
      cases sign with
      | positive => exact absurd hle hhigh.not_ge
      | negative => exact (abs_le.mp (value_le_infinite _)).1
    · rwa [value_add_of_infinity hz hy']

theorem value_zero_mul (hy : isFinite y = true) :
    isFinite (ofCount 0 * y) = true ∧ value (ofCount 0 * y) = 0 := by
  have hproduct := isRounded_mul (isFinite_ofCount (n := 0) (by norm_num)) hy
  rw [value_ofCount (by norm_num), Nat.cast_zero, zero_mul] at hproduct
  have hzero := RoundsTo.nonneg rounds_zero
  exact ⟨hproduct.isFinite hzero abs_zero.le infinite_pos, hproduct.roundsTo.unique hzero⟩

theorem le_value_mul (hx : le (ofCount 0) x = true) (hy : le (ofCount 1) y = true)
    (hnumber : IsNumber (x * y)) : value x ≤ value (x * y) := by
  have hone := (ofCount_le_iff (by norm_num)).mp hy
  have hzero := (ofCount_le_iff (by norm_num)).mp hx
  have hy : le (ofCount 0) y = true := by
    refine (ofCount_le_iff (by norm_num)).mpr ⟨hone.1, le_trans ?_ hone.2⟩
    norm_num
  rw [Nat.cast_zero] at hzero
  rw [Nat.cast_one] at hone
  have hinfinite : x.toModel.unpack = .infinity .positive ∧ IsNonneg y.toModel.unpack ∨
      IsNonneg x.toModel.unpack ∧ y.toModel.unpack = .infinity .positive →
        value x ≤ value (x * y) := by
    intro h
    have hproduct : value (x * y) = infinite := value_of_infinity (mul_infinity h) hnumber
    exact hproduct ▸ (abs_le.mp (value_le_infinite x)).2
  rcases isFinite_or_positive hx with hx' | hx'
  · rcases isFinite_or_positive hy with hy' | hy'
    · exact (isRounded_mul hx' hy').le_value (le_mul_of_one_le_right hzero.2 hone.2)
    · exact hinfinite (.inr ⟨zero_le_iff.mp hx, hy'⟩)
  · exact hinfinite (.inl ⟨hx', zero_le_iff.mp hy⟩)

theorem value_mul_le (hx : le (ofCount 0) x = true) (hy : le y (ofCount 1) = true)
    (hnumber : IsNumber (x * y)) : value (x * y) ≤ value x := by
  have hzero := (ofCount_le_iff (by norm_num)).mp hx
  have hone := (le_ofCount_iff (by norm_num)).mp hy
  rw [Nat.cast_zero] at hzero
  rw [Nat.cast_one] at hone
  rcases isFinite_or_positive hx with hx' | hx'
  · rcases isFinite_or_infinity hone.1 with hy' | ⟨sign, hy'⟩
    · exact (isRounded_mul hx' hy').value_le (mul_le_of_le_one_right hzero.2 hone.2)
    · have hproduct : value (x * y) = signed sign infinite :=
        value_of_infinity (mul_infinity (.inr ⟨zero_le_iff.mp hx, hy'⟩)) hnumber
      have hvalue : value y = signed sign infinite := congrArg valueOf hy'
      rw [hvalue] at hone
      cases sign with
      | positive =>
        have hlt : ((1 : ℕ) : ℚ) < infinite := natCast_lt_infinite (by norm_num)
        rw [Nat.cast_one] at hlt
        exact absurd hone.2 hlt.not_ge
      | negative => exact hproduct ▸ (abs_le.mp (value_le_infinite x)).1
  · have hvalue : value x = infinite := congrArg valueOf hx'
    exact hvalue ▸ (abs_le.mp (value_le_infinite _)).2

theorem isNonneg_div (hu : IsNonneg u) (hm : 0 < m) :
    IsNonneg (UnpackedFloat.div .binary64 u (.finite .positive m e hm)) := by
  match u, hu with
  | .infinity .positive, _ | .zero _, _ => trivial
  | .finite .positive .., _ => exact isNonneg_roundWithAccuracy _ _ _

/-- A quotient by a positive number is not negative. -/
theorem zero_le_div (hx : le (ofCount 0) x = true) (hy : isFinite y = true) (hpos : 0 < value y) :
    le (ofCount 0) (x / y) = true := by
  change y.toModel.unpack.isFinite = true at hy
  change 0 < valueOf y.toModel.unpack at hpos
  rw [zero_le_iff] at hx ⊢
  rw [div_eq]
  refine isNonneg_unpack_pack ?_
  generalize y.toModel.unpack = v at hy hpos
  match v, hy with
  | .zero _, _ => exact absurd hpos (lt_irrefl 0)
  | .finite .positive m e hm, _ => exact isNonneg_div hx hm
  | .finite .negative m e hm, _ =>
    exact absurd hpos (neg_nonpos.mpr (mul_zpow_pos hm e).le).not_gt

theorem value_div_infinity (hy : y.toModel.unpack = .infinity sign) : value (x / y) = 0 := by
  rw [div_eq, hy]
  generalize x.toModel.unpack = u
  cases u with
  | notANumber | infinity => exact congrArg valueOf (unpack_pack (u := .notANumber) trivial)
  | zero s | finite s => exact congrArg valueOf (unpack_pack (u := .zero (s / sign)) trivial)

/-- A finite number, not beyond `n` on either side. -/
structure Bounded (x : Float) (n : ℕ) : Prop where
  isFinite : isFinite x = true
  le : |value x| ≤ n

theorem Bounded.of_within (hn : n < 2 ^ 53) (h : within (ofCount 0) (ofCount n) x = true) :
    Bounded x n := by
  rw [within, Bool.and_eq_true, ofCount_le_iff (by norm_num), le_ofCount_iff hn,
    Nat.cast_zero] at h
  obtain ⟨⟨hnumber, hzero⟩, _, hle⟩ := h
  have habs := (abs_of_nonneg hzero).trans_le hle
  exact ⟨isFinite_iff.mpr ⟨hnumber, habs.trans_lt (natCast_lt_infinite hn)⟩, habs⟩

theorem Bounded.mul (hx : Bounded x m) (hy : Bounded y n) (hmn : m * n < 2 ^ 53) :
    Bounded (x * y) (m * n) := by
  have hproduct := isRounded_mul hx.isFinite hy.isFinite
  have hrounds := RoundsTo.nonneg (rounds_natCast hmn)
  have hle : |value x * value y| ≤ (m * n : ℕ) := by
    rw [abs_mul, Nat.cast_mul]
    exact mul_le_mul hx.le hy.le (abs_nonneg _) m.cast_nonneg
  exact ⟨hproduct.isFinite hrounds hle (natCast_lt_infinite hmn), hproduct.abs_value_le hrounds hle⟩

theorem bounded_ofCount (hn : n < 2 ^ 53) : Bounded (ofCount n) n :=
  ⟨isFinite_ofCount hn, by rw [value_ofCount hn, Nat.abs_cast]⟩

theorem isFinite_toMillivolts (flavor : Flavor) (hn : n ≤ maxRegister) :
    isFinite (flavor.toMillivolts (ofCount n : Float)) = true := by
  have hsmall : n < 2 ^ 32 := hn.trans_lt (by decide)
  have hcount : Bounded (ofCount n) n := bounded_ofCount (by omega)
  have hperCount : Bounded Flavor.millivoltsPerCount 1 := .of_within (by norm_num) (by decide)
  have hscale : Bounded flavor.inputScale 2 := by
    refine .of_within (by norm_num) ?_
    cases flavor with
    | mmfe8 | sfeb | pfeb => decide
  exact ((hcount.mul hperCount (by omega)).mul hscale (by omega)).isFinite

/-! ## Differences and magnitudes -/

theorem isFinite_abs (h : isFinite x = true) : isFinite (Scalar.abs x) = true := by
  rw [isFinite_iff] at h ⊢
  rwa [isNumber_abs, value_abs, abs_abs]

theorem isFinite_neg (h : isFinite x = true) : isFinite (-x) = true := by
  rw [isFinite_iff] at h ⊢
  rwa [isNumber_neg, value_neg, abs_neg]

theorem abs_sub_self (h : isFinite x = true) : Scalar.abs (x - x) = ofCount 0 := by
  have hzero : UnpackedFloat.sub .binary64 x.toModel.unpack x.toModel.unpack = .zero .positive := by
    change x.toModel.unpack.isFinite = true at h
    generalize x.toModel.unpack = u at h
    match u, h with
    | .zero .positive, _ | .zero .negative, _ => rfl
    | .finite .., _ =>
      rw [UnpackedFloat.sub]
      dsimp only
      rw [Int.sub_self]
      rfl
  change Float.abs (Float.ofModel (Float.Model.pack
    (UnpackedFloat.sub .binary64 x.toModel.unpack x.toModel.unpack))) = _
  rw [hzero]
  rfl

/-- A zero of either sign has the magnitude of the positive one. -/
theorem abs_of_zero (hle : le x (ofCount 0) = true) (hge : le (ofCount 0) x = true) :
    Scalar.abs x = ofCount 0 := by
  have hvalue := ((le_ofCount_iff (by norm_num)).mp hle).2
  rw [zero_le_iff] at hge
  change Float.ofModel (Float.Model.pack x.toModel.unpack.abs) = _
  change valueOf x.toModel.unpack ≤ _ at hvalue
  rw [Nat.cast_zero] at hvalue
  generalize x.toModel.unpack = u at hvalue hge
  match u, hge with
  | .zero _, _ => rfl
  | .infinity .positive, _ => exact absurd hvalue infinite_pos.not_ge
  | .finite .positive m e hm, _ => exact absurd hvalue (mul_zpow_pos hm e).not_ge

end Binary

/-! ## Laws -/

open Binary

theorem lt_of_le_maxRegister {n : ℕ} (hn : n ≤ maxRegister) : n < 2 ^ 53 :=
  hn.trans_lt (by decide)

instance : RegisterScalar Float where
  ofCount_le {m n} hmn hn := by
    rw [le_ofCount_iff (lt_of_le_maxRegister hn),
      value_ofCount (lt_of_le_maxRegister (hmn.trans hn))]
    exact ⟨isNumber_ofCount m, Nat.cast_le.mpr hmn⟩
  le_of_not_lt hn hx h :=
    Binary.le_of_not_lt (isFinite_ofCount (lt_of_le_maxRegister hn)) hx h
  smaller_le x n hn := by
    have hself : le (ofCount n : Float) (ofCount n) = true :=
      le_iff.mpr ⟨isNumber_ofCount n, isNumber_ofCount n, le_rfl⟩
    by_cases hx : IsNumber x
    · rw [smaller_eq hx (isNumber_ofCount n)]
      split
      · exact hself
      · rename_i hle
        exact le_iff.mpr ⟨hx, isNumber_ofCount n, not_lt.mp hle⟩
    · rwa [smaller_of_not_isNumber hx]
  toNat_le {x n} hn h := by
    rw [le_ofCount_iff (lt_of_le_maxRegister hn)] at h
    rw [toNat_eq]
    exact (min_le_left _ _).trans (toNat_le_rat h.2)

instance : RaisingScalar Float where
  not_lt_of_le h := lt_eq_false_iff.mpr fun _ _ ↦ (le_iff.mp h).2.2
  not_lt_mono {x m n} hmn hn h := by
    rw [lt_ofCount_eq_false_iff (lt_of_le_maxRegister hn)] at h
    rw [lt_ofCount_eq_false_iff (lt_of_le_maxRegister (hmn.trans hn))]
    exact fun hx ↦ (Nat.cast_le.mpr hmn).trans (h hx)
  not_lt_add {x y m n} hmn hx hy := by
    have hsum := lt_of_le_maxRegister hmn
    rw [lt_ofCount_eq_false_iff (by omega)] at hx hy
    rw [lt_ofCount_eq_false_iff hsum]
    intro hnumber
    obtain ⟨hnumberX, hnumberY⟩ := isNumber_of_add hnumber
    have hm := hx hnumberX
    have hn := hy hnumberY
    have hzeroX : le (ofCount 0) x = true :=
      (ofCount_le_iff (by norm_num)).mpr ⟨hnumberX, (Nat.cast_le.mpr m.zero_le).trans hm⟩
    have hzeroY : le (ofCount 0) y = true :=
      (ofCount_le_iff (by norm_num)).mpr ⟨hnumberY, (Nat.cast_le.mpr n.zero_le).trans hn⟩
    rw [← value_ofCount hsum]
    refine le_value_add hzeroX hzeroY hnumber ?_
    rw [value_ofCount hsum, Nat.cast_add]
    exact add_le_add hm hn
  le_larger x y hy := by
    have hnumber := (le_iff.mp hy).1
    by_cases hx : IsNumber x
    · rw [larger_eq hx hnumber]
      split
      · exact hy
      · rename_i hle
        exact le_iff.mpr ⟨hnumber, hx, not_lt.mp hle⟩
    · rwa [larger_of_not_isNumber hx]
  le_smaller {x n top} hn htop h := by
    have hcount := RegisterScalar.ofCount_le (R := Float) hn htop
    rw [lt_ofCount_eq_false_iff (lt_of_le_maxRegister (hn.trans htop))] at h
    by_cases hx : IsNumber x
    · rw [smaller_eq hx (isNumber_ofCount top)]
      split
      · exact hcount
      · exact (ofCount_le_iff (lt_of_le_maxRegister (hn.trans htop))).mpr ⟨hx, h hx⟩
    · rwa [smaller_of_not_isNumber hx]
  le_toNat {x n top} htop hn hle := by
    have hsmall := lt_of_le_maxRegister htop
    have hbelow := (le_ofCount_iff hsmall).mp hle
    -- a large count is rounded, but not down to a register value
    have hle : n ≤ top := by
      refine le_of_value_ofCount_le ?_ ((le_iff.mp hn).2.2.trans hbelow.2)
      exact (Nat.succ_le_succ htop).trans_lt (by decide)
    rw [ofCount_le_iff (hle.trans_lt hsmall)] at hn
    rw [toNat_eq]
    exact le_min (le_toNat_rat hn.2) (by omega)

instance : BumpScalar Float where
  le_trans hxy hyz := by
    obtain ⟨hx, _, hxy⟩ := le_iff.mp hxy
    obtain ⟨_, hz, hyz⟩ := le_iff.mp hyz
    exact le_iff.mpr ⟨hx, hz, hxy.trans hyz⟩
  le_self_of_lt h := by
    obtain ⟨_, hy, _⟩ := lt_iff.mp h
    exact le_iff.mpr ⟨hy, hy, le_rfl⟩
  lt_neg {x} h := by
    rw [lt_ofCount_iff (by norm_num), Nat.cast_zero] at h
    rw [ofCount_lt_iff (by norm_num), isNumber_neg, value_neg, Nat.cast_zero]
    exact ⟨h.1, neg_pos.mpr h.2⟩
  larger_eq := larger_eq_or
  le_larger_left {x} y hx := by
    have hnumber := (le_iff.mp hx).1
    by_cases hy : IsNumber y
    · rw [larger_eq hnumber hy]
      split
      · rename_i hlt
        exact le_iff.mpr ⟨hnumber, hy, hlt.le⟩
      · exact hx
    · rwa [larger_of_isNumber hnumber hy]
  not_lt_div {x y} hx hy := by
    rw [lt_ofCount_eq_false_iff (by norm_num)] at hx ⊢
    rw [ofCount_lt_iff (by norm_num), Nat.cast_zero] at hy
    intro hnumber
    rcases isFinite_or_infinity hy.1 with hfinite | ⟨sign, hinfinite⟩
    · have hdividend := isNumber_of_div hnumber
      have hzero := (ofCount_le_iff (by norm_num)).mpr ⟨hdividend, hx hdividend⟩
      exact ((ofCount_le_iff (by norm_num)).mp (zero_le_div hzero hfinite hy.2)).2
    · rw [value_div_infinity hinfinite, Nat.cast_zero]
  not_lt_ceil {x} h := by
    rw [lt_ofCount_eq_false_iff (by norm_num), Nat.cast_zero] at h ⊢
    rw [isNumber_ceil, value_ceil]
    exact fun hx ↦ Int.cast_nonneg (Int.ceil_nonneg (h hx))

end ThresholdTrim
