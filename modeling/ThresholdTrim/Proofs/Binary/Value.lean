import ThresholdTrim.Proofs.Binary
import ThresholdTrim.Proofs.Binary.Rounding

/-!
# What stored numbers stand for

A binary64 number stands for a rational one, its mantissa times a power of two, and the comparisons
of the machine are those of the rational numbers (`lt_iff`, `le_iff`). Infinity stands for the
number that would come next after the largest, so it is compared like the others; what is no number
is the one exception.

Storing a result keeps its value when the exponent fits, and gives infinity otherwise
(`valueOf_pack`). In both cases that is the value brought down to what infinity stands for.
-/

namespace ThresholdTrim.Binary

open Float.Model UnpackedFloat Scalar

/-! ## Values -/

/-- The magnitude `q` with a sign. -/
def signed : Sign → ℚ → ℚ
  | .positive, q => q
  | .negative, q => -q

/-- What is stood for; zero where nothing is. -/
def valueOf : UnpackedFloat → ℚ
  | .infinity sign => signed sign infinite
  | .zero _ | .notANumber => 0
  | .finite sign m e _ => signed sign (m * 2 ^ e)

/-- In the form numbers have in storage. -/
def IsStored : UnpackedFloat → Prop
  | .finite _ m e _ => Canonical m e ∧ e ≤ 971
  | .infinity _ | .zero _ | .notANumber => True

variable {u v : UnpackedFloat} {x y z : Float} {sign : Sign} {m m' : ℕ} {e e' : ℤ} {q r : ℚ}

@[simp] theorem signed_zero : signed sign 0 = 0 := by
  cases sign <;> simp [signed]

@[simp] theorem abs_signed (sign : Sign) (q : ℚ) : |signed sign q| = |q| := by
  cases sign <;> simp [signed]

/-- Numbers that are stored are not as large as infinity. -/
theorem mul_zpow_lt_infinite (h : Canonical m e) (he : e ≤ 971) : (m : ℚ) * 2 ^ e < infinite :=
  calc (m : ℚ) * 2 ^ e < 2 ^ (e + 53) := h.hasUnit.lt
    _ ≤ infinite := two_zpow_le_infinite (by omega)

theorem infinite_le_mul_zpow (h : Canonical m e) (he : 971 < e) : infinite ≤ (m : ℚ) * 2 ^ e :=
  calc infinite ≤ 2 ^ (e + 52) := infinite_le_two_zpow (by omega)
    _ ≤ m * 2 ^ e := h.hasUnit.le.resolve_left (by omega)

theorem abs_valueOf_lt {hm : 0 < m} (h : IsStored (.finite sign m e hm)) :
    |valueOf (.finite sign m e hm)| < infinite := by
  rw [valueOf, abs_signed, abs_of_nonneg h.1.hasUnit.nonneg]
  exact mul_zpow_lt_infinite h.1 h.2

/-! ## Storing -/

/-- The number in three fields of storage. -/
def decode (sign : Sign) (exponent : BitVec 11) (mantissa : BitVec 52) : UnpackedFloat :=
  if exponent = -1#11 then if mantissa = 0#52 then .infinity sign else .notANumber
  else if exponent = 0#11 then
    if h : mantissa = 0#52 then .zero sign
    else .finite sign mantissa.toNat (-1074)
      (Nat.pos_of_ne_zero fun hzero ↦ h (BitVec.eq_of_toNat_eq hzero))
  else .finite sign (2 ^ 52 + mantissa.toNat) (exponent.toNat - 1075) (by omega)

theorem unpack_eq_decode (bits : BitVec (Format.numBits .binary64)) :
    UnpackedFloat.unpack .binary64 bits =
      decode (.ofBitVec (unpackSign bits)) (unpackExponent bits) (unpackMantissa bits) := by
  have happend : ∀ mantissa : BitVec 52, (1#1 ++ mantissa).toNat = 2 ^ 52 + mantissa.toNat := by
    intro mantissa
    rw [BitVec.toNat_append, ← Nat.shiftLeft_add_eq_or_of_lt mantissa.isLt]
    rfl
  have hbias : (Format.exponentBias .binary64 : ℤ) = 1023 := rfl
  rw [UnpackedFloat.unpack, decode]
  dsimp only
  split
  · rfl
  · split
    · rename_i hzero
      split
      · rfl
      · congr 1
        rw [hzero, hbias]
        rfl
    · congr 1
      exact happend _

theorem isStored_decode (sign : Sign) (exponent : BitVec 11) (mantissa : BitVec 52) :
    IsStored (decode sign exponent mantissa) := by
  have hmantissa : mantissa.toNat < 2 ^ 52 := mantissa.isLt
  have hexponent : exponent.toNat < 2048 := exponent.isLt
  rw [decode]
  split
  · split <;> trivial
  · rename_i hfinite
    have htop : exponent.toNat ≠ 2047 := fun heq ↦ hfinite (BitVec.eq_of_toNat_eq heq)
    split
    · split
      · trivial
      · exact ⟨⟨by omega, le_rfl, .inl rfl⟩, by norm_num⟩
    · rename_i hnormal
      have hpos : exponent.toNat ≠ 0 := fun heq ↦ hnormal (BitVec.eq_of_toNat_eq heq)
      exact ⟨⟨by omega, by omega, .inr (by omega)⟩, by omega⟩

theorem decode_subnormal (hm : 0 < m) (hlt : m < 2 ^ 52) :
    decode sign 0#11 (.ofNat 52 m) = .finite sign m (-1074) hm := by
  have hmantissa : (BitVec.ofNat 52 m).toNat = m := Nat.mod_eq_of_lt hlt
  have hne : BitVec.ofNat 52 m ≠ 0#52 := by
    intro hzero
    rw [hzero] at hmantissa
    exact hm.ne hmantissa
  rw [decode, if_neg (by decide), if_pos rfl, dif_neg hne]
  congr 1

theorem decode_normal {biased : ℕ} (hpos : 0 < biased) (htop : biased < 2047) (hfull : 2 ^ 52 ≤ m)
    (hlt : m < 2 ^ 53) : decode sign (.ofNat 11 biased) (.ofNat 52 m) =
      .finite sign m (biased - 1075) (Nat.lt_of_lt_of_le (by norm_num) hfull) := by
  have hexponent : (BitVec.ofNat 11 biased).toNat = biased :=
    Nat.mod_eq_of_lt (htop.trans (by norm_num))
  have hmantissa : 2 ^ 52 + (BitVec.ofNat 52 m).toNat = m := by
    rw [BitVec.toNat_ofNat]
    omega
  have hfinite : BitVec.ofNat 11 biased ≠ -1#11 := by
    intro hones
    rw [hones] at hexponent
    exact htop.ne hexponent.symm
  have hnormal : BitVec.ofNat 11 biased ≠ 0#11 := by
    intro hzero
    rw [hzero] at hexponent
    exact hpos.ne hexponent
  rw [decode, if_neg hfinite, if_neg hnormal]
  congr 1
  rw [hexponent]

theorem isStored_unpack (x : Float) : IsStored x.toModel.unpack := by
  change IsStored (UnpackedFloat.unpack .binary64 x.toModel.toBits.toBitVec)
  rw [unpack_eq_decode]
  exact isStored_decode _ _ _

theorem unpack_packComponents (sign : Sign) (exponent : BitVec 11) (mantissa : BitVec 52) :
    UnpackedFloat.unpack .binary64 (packComponents .binary64 sign exponent mantissa) =
      decode sign exponent mantissa := by
  have hsign : Sign.ofBitVec sign.toBitVec = sign := by
    cases sign <;> rfl
  rw [unpack_eq_decode, unpackMantissa_packComponents, unpackExponent_packComponents,
    unpackSign_packComponents, hsign]

theorem unpack_pack_infinity (sign : Sign) :
    (Float.Model.pack (.infinity sign)).unpack = .infinity sign :=
  unpack_packComponents sign (-1#11) 0#52

/-- What is in the form numbers have in storage is found again. -/
theorem unpack_pack (h : IsStored u) : (Float.Model.pack u).unpack = u := by
  cases u with
  | infinity sign => exact unpack_pack_infinity sign
  | notANumber => rfl
  | zero sign => exact unpack_packComponents sign 0#11 0#52
  | finite sign m e hm =>
    change UnpackedFloat.unpack .binary64 (UnpackedFloat.pack .binary64 _) = _
    obtain ⟨hcanonical, htop⟩ := h
    have hlow := hcanonical.low
    have hlt := hcanonical.lt
    have hbias : (Format.exponentBias .binary64 : ℤ) = 1023 := rfl
    have hplaces : m.log2 + 1 = Format.mantissaBits .binary64 ↔ 2 ^ 52 ≤ m := by
      change m.log2 + 1 = 53 ↔ 2 ^ 52 ≤ m
      rw [← Nat.le_log2 hm.ne']
      have hlog := (Nat.log2_lt hm.ne').mpr hlt
      omega
    rw [UnpackedFloat.pack]
    dsimp only
    rw [hbias, if_neg (by simpa using by omega)]
    by_cases hfull : 2 ^ 52 ≤ m
    · rw [if_pos (hplaces.mpr hfull), unpack_packComponents,
        decode_normal (by omega) (by omega) hfull hlt]
      congr 1
      omega
    · have hexponent := hcanonical.full.resolve_right hfull
      subst hexponent
      rw [if_neg (mt hplaces.mp hfull), unpack_packComponents, decode_subnormal hm (by omega)]

theorem unpack_pack_of_lt (h : 971 < e) (hm : 0 < m) :
    (Float.Model.pack (.finite sign m e hm)).unpack = .infinity sign := by
  have hbias : (Format.exponentBias .binary64 : ℤ) = 1023 := rfl
  change UnpackedFloat.unpack .binary64 (UnpackedFloat.pack .binary64 _) = _
  rw [UnpackedFloat.pack]
  dsimp only
  rw [hbias, if_pos (by simpa using by omega)]
  exact unpack_packComponents sign (-1#11) 0#52

/-- A result in storage has its value, as far as numbers go. -/
theorem valueOf_pack (h : Canonical m e) (hm : 0 < m) :
    valueOf (Float.Model.pack (.finite sign m e hm)).unpack =
      signed sign (min (m * 2 ^ e) infinite) := by
  rcases le_or_gt e 971 with hle | hlt
  · have hstored : IsStored (.finite sign m e hm) := ⟨h, hle⟩
    rw [unpack_pack hstored, valueOf, min_eq_left (mul_zpow_lt_infinite h hle).le]
  · rw [unpack_pack_of_lt hlt, valueOf, min_eq_right (infinite_le_mul_zpow h hlt)]

/-! ## Comparisons -/

/-- Comparing exponents first is comparing values. -/
theorem compare_canonical (h : Canonical m e) (h' : Canonical m' e') :
    (compare e e').then (compare m m') = compare ((m : ℚ) * 2 ^ e) (m' * 2 ^ e') := by
  have hlower : ∀ {m m' : ℕ} {e e' : ℤ}, Canonical m e → Canonical m' e' → e < e' →
      (m : ℚ) * 2 ^ e < m' * 2 ^ e' := by
    intro m m' e e' h h' hlt
    have hlow := h.low
    calc (m : ℚ) * 2 ^ e < 2 ^ (e + 53) := h.hasUnit.lt
      _ ≤ 2 ^ (e' + 52) := two_zpow_le (by omega)
      _ ≤ m' * 2 ^ e' := h'.hasUnit.le.resolve_left (by omega)
  rcases lt_trichotomy e e' with hlt | rfl | hgt
  · rw [compare_lt_iff_lt.mpr hlt, compare_lt_iff_lt.mpr (hlower h h' hlt)]
    rfl
  · have hpos := two_zpow_pos e
    rw [compare_eq_iff_eq.mpr rfl]
    change compare m m' = _
    rcases lt_trichotomy m m' with hlt | rfl | hgt
    · rw [compare_lt_iff_lt.mpr hlt, compare_lt_iff_lt.mpr]
      gcongr
    · rw [compare_eq_iff_eq.mpr rfl, compare_eq_iff_eq.mpr rfl]
    · rw [compare_gt_iff_gt.mpr hgt, compare_gt_iff_gt.mpr]
      change (m' : ℚ) * 2 ^ e < m * 2 ^ e
      gcongr
  · rw [compare_gt_iff_gt.mpr hgt, compare_gt_iff_gt.mpr (hlower h' h hgt)]
    rfl

theorem mul_zpow_pos (hm : 0 < m) (e : ℤ) : 0 < (m : ℚ) * 2 ^ e :=
  mul_pos (Nat.cast_pos.mpr hm) (two_zpow_pos e)

theorem compare_neg (q r : ℚ) : compare (-q) (-r) = (compare q r).swap := by
  rcases lt_trichotomy q r with hlt | rfl | hgt
  · rw [compare_lt_iff_lt.mpr hlt, compare_gt_iff_gt.mpr (neg_lt_neg hlt)]
    rfl
  · rw [compare_eq_iff_eq.mpr rfl, compare_eq_iff_eq.mpr rfl]
    rfl
  · rw [compare_gt_iff_gt.mpr hgt, compare_lt_iff_lt.mpr (neg_lt_neg hgt)]
    rfl

/-- Numbers are compared by their values. -/
theorem compare_eq_compare_valueOf (hu : IsStored u) (hv : IsStored v) (hu' : u.isNaN = false)
    (hv' : v.isNaN = false) :
    UnpackedFloat.compare u v = some (compare (valueOf u) (valueOf v)) := by
  have hinfinite := infinite_pos
  have hlt : ∀ {q r : ℚ}, q < r → some Ordering.lt = some (compare q r) :=
    fun h ↦ congrArg some (compare_lt_iff_lt.mpr h).symm
  have hgt : ∀ {q r : ℚ}, r < q → some Ordering.gt = some (compare q r) :=
    fun h ↦ congrArg some (compare_gt_iff_gt.mpr h).symm
  have heq : ∀ q : ℚ, some Ordering.eq = some (compare q q) :=
    fun q ↦ congrArg some (compare_eq_iff_eq.mpr rfl).symm
  cases u with
  | notANumber => cases hu'
  | infinity sign =>
    cases v with
    | notANumber => cases hv'
    | infinity sign' =>
      cases sign with
      | positive =>
        cases sign' with
        | positive => exact heq _
        | negative => exact hgt (neg_lt_self hinfinite)
      | negative =>
        cases sign' with
        | positive => exact hlt (neg_lt_self hinfinite)
        | negative => exact heq _
    | zero sign' =>
      cases sign with
      | positive => exact hgt hinfinite
      | negative => exact hlt (neg_neg_of_pos hinfinite)
    | finite sign' m e hm =>
      obtain ⟨hlow, hhigh⟩ := abs_lt.mp (abs_valueOf_lt hv)
      cases sign with
      | positive => exact hgt hhigh
      | negative => exact hlt hlow
  | zero sign =>
    cases v with
    | notANumber => cases hv'
    | infinity sign' =>
      cases sign' with
      | positive => exact hlt hinfinite
      | negative => exact hgt (neg_neg_of_pos hinfinite)
    | zero => exact heq _
    | finite sign' m e hm =>
      cases sign' with
      | positive => exact hlt (mul_zpow_pos hm e)
      | negative => exact hgt (neg_neg_of_pos (mul_zpow_pos hm e))
  | finite sign m e hm =>
    cases v with
    | notANumber => cases hv'
    | infinity sign' =>
      obtain ⟨hlow, hhigh⟩ := abs_lt.mp (abs_valueOf_lt hu)
      cases sign' with
      | positive => cases sign <;> exact hlt hhigh
      | negative => cases sign <;> exact hgt hlow
    | zero sign' =>
      cases sign with
      | positive => exact hgt (mul_zpow_pos hm e)
      | negative => exact hlt (neg_neg_of_pos (mul_zpow_pos hm e))
    | finite sign' m' e' hm' =>
      have hpos := mul_zpow_pos hm e
      have hpos' := mul_zpow_pos hm' e'
      have hcompare := compare_canonical hu.1 hv.1
      cases sign with
      | positive =>
        cases sign' with
        | positive => exact congrArg some hcompare
        | negative => exact hgt ((neg_neg_of_pos hpos').trans hpos)
      | negative =>
        cases sign' with
        | positive => exact hlt ((neg_neg_of_pos hpos).trans hpos')
        | negative => exact congrArg some ((congrArg _ hcompare).trans (compare_neg _ _).symm)

/-! ## Numbers -/

/-- Whether anything is stood for. -/
def IsNumber (x : Float) : Prop := x.toModel.unpack.isNaN = false

def value (x : Float) : ℚ := valueOf x.toModel.unpack

theorem compare_eq_none (h : ¬(u.isNaN = false ∧ v.isNaN = false)) :
    UnpackedFloat.compare u v = none := by
  cases u <;> cases v <;> simp_all [UnpackedFloat.compare, UnpackedFloat.isNaN]

theorem le_iff : le x y = true ↔ IsNumber x ∧ IsNumber y ∧ value x ≤ value y := by
  have hle : le x y = true ↔ x ≤ y := decide_eq_true_iff
  rw [hle, le_iff_unpack, UnpackedFloat.le, ← and_assoc]
  by_cases hnumbers : IsNumber x ∧ IsNumber y
  · rw [compare_eq_compare_valueOf (isStored_unpack x) (isStored_unpack y) hnumbers.1 hnumbers.2]
    simp [hnumbers, value, Ordering.isLE_iff_ne_gt, compare_le_iff_le]
  · rw [compare_eq_none hnumbers]
    simp [hnumbers]

theorem lt_iff : lt x y = true ↔ IsNumber x ∧ IsNumber y ∧ value x < value y := by
  have hlt : lt x y = true ↔ x < y := decide_eq_true_iff
  rw [hlt, lt_iff_unpack, UnpackedFloat.lt, ← and_assoc]
  by_cases hnumbers : IsNumber x ∧ IsNumber y
  · rw [compare_eq_compare_valueOf (isStored_unpack x) (isStored_unpack y) hnumbers.1 hnumbers.2]
    simp [hnumbers, value, compare_lt_iff_lt]
  · rw [compare_eq_none hnumbers]
    simp [hnumbers]

theorem lt_eq_false_iff : lt x y = false ↔ (IsNumber x → IsNumber y → value y ≤ value x) := by
  rw [← Bool.not_eq_true, lt_iff]
  push Not
  rfl

theorem isFinite_iff : isFinite x = true ↔ IsNumber x ∧ |value x| < infinite := by
  change x.toModel.unpack.isFinite = true ↔
    x.toModel.unpack.isNaN = false ∧ |valueOf x.toModel.unpack| < infinite
  have hstored := isStored_unpack x
  generalize x.toModel.unpack = u at hstored
  cases u with
  | notANumber => simp [UnpackedFloat.isFinite, UnpackedFloat.isNaN]
  | infinity sign =>
    simp [UnpackedFloat.isFinite, UnpackedFloat.isNaN, valueOf, abs_of_pos infinite_pos]
  | zero => simp [UnpackedFloat.isFinite, UnpackedFloat.isNaN, valueOf, infinite_pos]
  | finite sign m e hm =>
    simp [UnpackedFloat.isFinite, UnpackedFloat.isNaN, abs_valueOf_lt hstored]

/-- Of two finite numbers one is at most the other. -/
theorem le_of_not_lt (hx : isFinite x = true) (hy : isFinite y = true) (h : lt x y = false) :
    le y x = true := by
  have hx := (isFinite_iff.mp hx).1
  have hy := (isFinite_iff.mp hy).1
  exact le_iff.mpr ⟨hy, hx, lt_eq_false_iff.mp h hx hy⟩

theorem not_le_of_lt (h : lt x y = true) : le y x = false := by
  rw [← Bool.not_eq_true, le_iff]
  exact fun hle ↦ hle.2.2.not_gt (lt_iff.mp h).2.2

/-- What is stored is not changed by rounding. -/
theorem roundsTo_value (x : Float) : RoundsTo (value x) (value x) := by
  have hsigned : ∀ {sign q}, Rounds q q → RoundsTo (signed sign q) (signed sign q) := by
    intro sign q h
    cases sign with
    | positive => exact .nonneg h
    | negative => exact .nonpos h
  have hstored := isStored_unpack x
  rw [value]
  generalize x.toModel.unpack = u at hstored
  cases u with
  | zero | notANumber => exact .nonneg rounds_zero
  | infinity => exact hsigned rounds_infinite
  | finite =>
    exact hsigned (.self hstored.1 (mul_zpow_lt_infinite hstored.1 hstored.2).le)

end ThresholdTrim.Binary
