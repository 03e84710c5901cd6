import Mathlib
import ThresholdTrim.Statistics

/-!
# Spreads in binary floating point

A negative spread stands for a channel that was not measured. A measured channel must therefore
never come out with one, nor with a not-a-number, which no comparison would take for a spread. The
variance it is the root of may be negative, or not a number at all, and is brought to zero then.
From there on the sign decides: a root keeps it, rounding keeps it, and so does the way a number is
stored.
-/

namespace ThresholdTrim.Binary

open Float.Model UnpackedFloat Scalar

/-- A zero of either sign or a number above it, infinity included. -/
def IsNonneg : UnpackedFloat → Prop
  | .infinity .positive | .zero _ | .finite .positive _ _ _ => True
  | .infinity .negative | .finite .negative _ _ _ | .notANumber => False

theorem zero_unpack : (Scalar.ofCount 0 : Float).toModel.unpack = .zero .positive := by
  rfl

theorem le_iff_unpack {x y : Float} :
    x ≤ y ↔ x.toModel.unpack.le y.toModel.unpack = true := by
  change Float.le x y = true ↔ _
  rw [Float.le, decide_eq_true_iff]
  rfl

theorem lt_iff_unpack {x y : Float} :
    x < y ↔ x.toModel.unpack.lt y.toModel.unpack = true := by
  change Float.lt x y = true ↔ _
  rw [Float.lt, decide_eq_true_iff]
  rfl

theorem zero_le_iff {x : Float} :
    le (ofCount 0) x = true ↔ IsNonneg x.toModel.unpack := by
  have hle : le (ofCount 0) x = true ↔ (ofCount 0 : Float) ≤ x := decide_eq_true_iff
  rw [hle, le_iff_unpack, zero_unpack]
  cases x.toModel.unpack with
  | infinity sign | zero sign | finite sign =>
    cases sign <;> simp [IsNonneg, UnpackedFloat.le, UnpackedFloat.compare]
  | notANumber => simp [IsNonneg, UnpackedFloat.le, UnpackedFloat.compare]

/-- Stored with a positive sign, and not as what is no number. -/
theorem isNonneg_unpack_packComponents {exponent : BitVec 11} {mantissa : BitVec 52}
    (h : exponent = -1#11 → mantissa = 0#52) :
    IsNonneg (UnpackedFloat.unpack .binary64
      (packComponents .binary64 .positive exponent mantissa)) := by
  have hsign : Sign.ofBitVec (Sign.toBitVec .positive) = .positive := rfl
  rw [UnpackedFloat.unpack]
  simp only [unpackMantissa_packComponents, unpackExponent_packComponents,
    unpackSign_packComponents, hsign]
  split
  · rename_i hexponent
    rw [if_pos (h hexponent)]
    trivial
  · split
    · split <;> trivial
    · trivial

theorem isNonneg_unpack_pack {u : UnpackedFloat} (h : IsNonneg u) :
    IsNonneg (Float.Model.pack u).unpack := by
  change IsNonneg (UnpackedFloat.unpack .binary64 (UnpackedFloat.pack .binary64 u))
  match u, h with
  | .infinity .positive, _ => exact isNonneg_unpack_packComponents fun _ ↦ rfl
  | .zero sign, _ =>
    rw [UnpackedFloat.pack, unpack_packedZero]
    trivial
  | .finite .positive m e _, _ =>
    rw [UnpackedFloat.pack]
    dsimp only
    split
    · exact isNonneg_unpack_packComponents fun _ ↦ rfl
    · rename_i hsmall
      split
      · refine isNonneg_unpack_packComponents fun hexponent ↦ ?_
        -- the largest exponent is left to infinity and to what is no number
        have hone := congrArg BitVec.toNat hexponent
        rw [BitVec.toNat_ofNat, Nat.mod_eq_of_lt (by omega)] at hone
        have htop : (-1#11).toNat = 2 ^ 11 - 1 := rfl
        omega
      · exact isNonneg_unpack_packComponents nofun

theorem isNonneg_roundWithAccuracy (m : Nat) (e : Int) (accuracy : Accuracy) :
    IsNonneg (roundWithAccuracy .binary64 .positive m e accuracy) := by
  rw [roundWithAccuracy]
  dsimp only
  split <;> trivial

theorem isNonneg_sqrt {u : UnpackedFloat} (h : IsNonneg u) :
    IsNonneg (UnpackedFloat.sqrt .binary64 u) := by
  match u, h with
  | .infinity .positive, _ | .zero _, _ => trivial
  | .finite .positive m e _, _ => exact isNonneg_roundWithAccuracy _ _ _

/-- What is not above zero is brought to zero. -/
theorem isNonneg_larger (x : Float) : IsNonneg (larger x (ofCount 0)).toModel.unpack := by
  have hzero : IsNonneg (ofCount 0 : Float).toModel.unpack := trivial
  change IsNonneg (if x.isNaN then ofCount 0 else if (ofCount 0 : Float).isNaN then x
    else if x < ofCount 0 then ofCount 0 else x).toModel.unpack
  rw [if_neg (show ¬ (ofCount 0 : Float).isNaN = true from nofun)]
  split
  · exact hzero
  rename_i hnumber
  split
  · exact hzero
  rename_i hnotBelow
  rw [lt_iff_unpack, zero_unpack] at hnotBelow
  change ¬ x.toModel.unpack.isNaN = true at hnumber
  generalize x.toModel.unpack = u at hnumber hnotBelow ⊢
  cases u with
  | notANumber => exact absurd rfl hnumber
  | infinity sign | zero sign | finite sign =>
    cases sign <;> simp_all [IsNonneg, UnpackedFloat.lt, UnpackedFloat.compare]

/-- A spread is never negative and always a number. -/
theorem zero_le_rms (xs : List Float) (mean : Float) :
    le (ofCount 0) (Statistics.rms xs mean) = true :=
  zero_le_iff.mpr (isNonneg_unpack_pack (isNonneg_sqrt (isNonneg_larger _)))

end ThresholdTrim.Binary
