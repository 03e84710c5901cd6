/-!
# Scalars

Every stage of a calibration computes with the same few operations, and the statements about it
come in two readings: what the machine does with binary floating point, and what the method does
in exact arithmetic. `Scalar` is the interface both readings share, so that each formula is
written down once, in one order of operations.

The class carries operations only. A statement that needs a law of arithmetic asks for it.
-/

namespace ThresholdTrim

/-- Numbers a calibration computes with. Comparisons are decisions, because a floating-point
comparison with a not-a-number is simply false. -/
class Scalar (R : Type) extends Add R, Sub R, Mul R, Div R, Neg R where
  /-- The scalar of a count. -/
  ofCount : Nat → R
  lt : R → R → Bool
  le : R → R → Bool
  isFinite : R → Bool
  /-- Whether the sign bit is set; a negative zero has one too. -/
  isNegative : R → Bool
  abs : R → R
  sqrt : R → R
  /-- Nearest integer, halves away from zero. -/
  round : R → R
  ceil : R → R
  /-- The larger of two; a not-a-number gives way to the other. -/
  larger : R → R → R
  /-- The smaller of two; a not-a-number gives way to the other. -/
  smaller : R → R → R
  /-- Integer part, toward zero; a not-a-number counts as zero. -/
  truncate : R → Int

namespace Scalar

variable {R : Type} [Scalar R]

/-- The fraction `p / q`, rounded once where the arithmetic rounds. -/
def fraction (p q : Nat) : R := ofCount p / ofCount q

/-- Integer part as a register value: a negative scalar programs zero. -/
def toNat (x : R) : Nat := (truncate x).toNat

/-- `x` brought into the range `0 .. top`; a not-a-number stays what it is. -/
def clampTo (top : Nat) (x : R) : R :=
  if lt x (ofCount 0) then ofCount 0 else if lt (ofCount top) x then ofCount top else x

/-- Closed interval test, false when either bound or the value is not a number. -/
def within (low high x : R) : Bool := le low x && le x high

end Scalar

/-! ## Binary floating point

Rounding to whole numbers is written out, since `Float.round` and `Float.ceil` have no definition in
the logic. -/

namespace Binary

open Float.Model UnpackedFloat

/-- The number with a whole magnitude, `whole sign m d` for the magnitude `m / d`. A number whose
exponent is not negative is whole as it is. -/
def toWhole (whole : Sign → Nat → Nat → Nat) : UnpackedFloat → UnpackedFloat
  | .finite sign m (.negSucc k) _ =>
    UnpackedFloat.round .binary64 sign (whole sign m (1 <<< (k + 1))) 0
  | u => u

/-- Nearest magnitude, halves away from zero. -/
def nearest (_ : Sign) (m d : Nat) : Nat := (2 * m + d) / (2 * d)

/-- Magnitude of the next number up. -/
def upward : Sign → Nat → Nat → Nat
  | .negative, m, d => m / d
  | .positive, m, d => (m + d - 1) / d

end Binary

instance : Scalar Float where
  ofCount n := Float.ofNat n
  lt a b := decide (a < b)
  le a b := decide (a ≤ b)
  isFinite x := x.isFinite
  isNegative x := x.toBits >>> 63 == 1
  abs := Float.abs
  sqrt := Float.sqrt
  round x := .ofModel (.pack (Binary.toWhole Binary.nearest x.toModel.unpack))
  ceil x := .ofModel (.pack (Binary.toWhole Binary.upward x.toModel.unpack))
  larger a b := if a.isNaN then b else if b.isNaN then a else if a < b then b else a
  smaller a b := if a.isNaN then b else if b.isNaN then a else if b < a then b else a
  truncate x := x.toModel.toInt64.toInt

end ThresholdTrim
