import Mathlib
import ThresholdTrim.Calibration
import ThresholdTrim.FrontEnd.Linear
import ThresholdTrim.Proofs.Scalar

/-!
# Exact arithmetic

The second reading of `Scalar`: rational numbers, with nothing rounded but where the procedure
rounds. Every rational is a number, so `isFinite` always holds; division by zero gives zero. A
square root is taken of numerator and denominator apart, which is exact for squares.

Rational runs can be evaluated, so a small device is kept here for statements about single runs:
two channels, one sample a batch, and a response that is exactly linear.
-/

namespace ThresholdTrim

open Scalar

instance : Scalar ℚ where
  ofCount n := n
  lt a b := decide (a < b)
  le a b := decide (a ≤ b)
  isFinite _ := true
  isNegative x := decide (x < 0)
  abs x := |x|
  sqrt x := mkRat (Nat.sqrt x.num.toNat) (Nat.sqrt x.den)
  round x := if 0 ≤ x then ⌊x + 1 / 2⌋ else ⌈x - 1 / 2⌉
  ceil x := ⌈x⌉
  larger := max
  smaller := min
  truncate x := if 0 ≤ x then ⌊x⌋ else ⌈x⌉

theorem le_rat {a b : ℚ} : le a b = true ↔ a ≤ b := decide_eq_true_iff

theorem lt_rat {a b : ℚ} : lt a b = true ↔ a < b := decide_eq_true_iff

theorem toNat_le_rat {x : ℚ} {n : ℕ} (h : x ≤ n) : toNat x ≤ n := by
  rw [Scalar.toNat, Int.toNat_le]
  change (if 0 ≤ x then ⌊x⌋ else ⌈x⌉) ≤ (n : ℤ)
  split
  · exact Int.floor_le_iff.mpr (lt_of_le_of_lt h (by simp))
  · exact Int.ceil_le.mpr (by simpa using h)

theorem toNat_intCast (n : ℤ) : toNat (n : ℚ) = n.toNat := by
  change (if 0 ≤ (n : ℚ) then ⌊(n : ℚ)⌋ else ⌈(n : ℚ)⌉).toNat = n.toNat
  rw [Int.floor_intCast, Int.ceil_intCast, ite_self]

theorem clampTo_le_rat (top : ℕ) (x : ℚ) : clampTo top x ≤ top := by
  rw [clampTo]
  split
  · exact Nat.cast_nonneg top
  · split
    · exact le_rfl
    · rename_i hbelow
      exact not_lt.mp (mt lt_rat.mpr hbelow)

instance : RegisterScalar ℚ where
  ofCount_le h _ := le_rat.mpr (Nat.cast_le.mpr h)
  le_of_not_lt _ _ h := le_rat.mpr (not_lt.mp (of_decide_eq_false h))
  smaller_le _ _ _ := le_rat.mpr (min_le_right _ _)
  toNat_le _ h := toNat_le_rat (le_rat.mp h)

theorem le_toNat_rat {x : ℚ} {n : ℕ} (h : (n : ℚ) ≤ x) : n ≤ toNat x := by
  have hpos : 0 ≤ x := le_trans n.cast_nonneg h
  rw [Scalar.toNat, Int.le_toNat]
  · change (n : ℤ) ≤ if 0 ≤ x then ⌊x⌋ else ⌈x⌉
    rw [if_pos hpos]
    exact Int.le_floor.mpr (by exact_mod_cast h)
  · change 0 ≤ if 0 ≤ x then ⌊x⌋ else ⌈x⌉
    rw [if_pos hpos]
    exact Int.floor_nonneg.mpr hpos

theorem lt_eq_false_rat {a b : ℚ} : lt a b = false ↔ b ≤ a :=
  decide_eq_false_iff_not.trans not_lt

instance : RaisingScalar ℚ where
  not_lt_of_le h := lt_eq_false_rat.mpr (le_rat.mp h)
  not_lt_mono hmn _ h :=
    lt_eq_false_rat.mpr ((Nat.cast_le.mpr hmn).trans (lt_eq_false_rat.mp h))
  not_lt_add {x y m n} _ hx hy := by
    refine lt_eq_false_rat.mpr ?_
    change ((m + n : ℕ) : ℚ) ≤ x + y
    rw [Nat.cast_add]
    exact add_le_add (lt_eq_false_rat.mp hx) (lt_eq_false_rat.mp hy)
  le_larger x _ _ := le_rat.mpr (le_max_right x _)
  le_smaller hn _ hx := le_rat.mpr (le_min (lt_eq_false_rat.mp hx) (Nat.cast_le.mpr hn))
  le_toNat _ h _ := le_toNat_rat (le_rat.mp h)

instance : BumpScalar ℚ where
  le_trans hxy hyz := le_rat.mpr ((le_rat.mp hxy).trans (le_rat.mp hyz))
  le_self_of_lt _ := le_rat.mpr le_rfl
  lt_neg h := lt_rat.mpr (neg_pos.mpr (lt_rat.mp h))
  larger_eq := max_choice
  le_larger_left y _ := le_rat.mpr (le_max_left _ y)
  not_lt_div hx hy :=
    lt_eq_false_rat.mpr (div_nonneg (lt_eq_false_rat.mp hx) (lt_rat.mp hy).le)
  not_lt_ceil hx :=
    lt_eq_false_rat.mpr (Int.cast_nonneg (Int.ceil_nonneg (lt_eq_false_rat.mp hx)))

/-! ## A device to run -/

/-- The model as a front-end; its answers do not depend on what was asked before. -/
def LinearModel.frontEnd {R : Type} [Scalar R] (model : LinearModel R) : FrontEnd Unit where
  acquire request _ := (model.acquire request, ())
  write _ _ _ := (.ok (), ())

namespace Exact

/-- A pair of channels. -/
def spec : DeviceSpec := ⟨⟨"MMFE8", 0⟩, .a, 1, .mmfe8, 2⟩

/-- Tuned settings cut down to one sample a batch and short ranges. -/
def settings : Settings ℚ where
  sampling := { Settings.defaultSampling with sampleCount := 1, oversampling := 1 }
  classifier := Settings.defaultClassifier
  threshold := { Settings.defaultThreshold with guessPoints := [10, 20], thdacMax := 200 }
  trim := { Settings.defaultTrim with mid := 2, high := 4, trimMax := 4 }

/-- A noiseless response of two counts a step. -/
def model : LinearModel ℚ :=
  { LinearModel.uniform 2 100 0 with intercept := 50, slope := 2, trimMid := 2 }

def bench : Bench Unit ℚ := ⟨model.frontEnd, settings.sampling⟩

def run : Run Unit ℚ := Calibration.calibrate bench ⟨[]⟩ settings .trim spec (.new ())

/-- The board with four channels. -/
def lopsidedSpec : DeviceSpec := { spec with channels := 4 }

/-- The last two channels have low thresholds. One of them does not respond to its trim, the other
is out of reach of it. -/
def lopsidedModel : LinearModel ℚ :=
  { LinearModel.uniform 4 100 0 with
    intercept := 50
    slope := 2
    trimMid := 2
    offsets := [0, 0, -300, -60]
    saturation := [31, 31, 0, 31] }

def lopsidedBench : Bench Unit ℚ := ⟨lopsidedModel.frontEnd, settings.sampling⟩

def lopsidedRun : Run Unit ℚ :=
  Calibration.calibrate lopsidedBench ⟨[]⟩ settings .trim lopsidedSpec (.new ())

/-- The pair of channels, four counts below its baselines at register value 25. -/
def shortModel : LinearModel ℚ := { model with baselines := [104, 104] }

def shortBench : Bench Unit ℚ := ⟨shortModel.frontEnd, settings.sampling⟩

def shortConstants : ThresholdConstants ℚ := ⟨2, 50, 25, 100, 100⟩

/-- What is known of it when its trims are due. -/
def shortContext : Context ℚ :=
  { Context.new spec 200 2 with
    baselines := [⟨104, 1, 0⟩, ⟨104, 1, 0⟩]
    threshold := some shortConstants }

def shortFirst : Except (CalibrationError ℚ) (Trim.PassOutcome ℚ) × Run Unit ℚ :=
  (Trim.runPass shortBench settings.trim 25 .first).run ⟨.new (), shortContext⟩

def shortOutcome : Trim.PassOutcome ℚ := ⟨[(0, 4), (1, 4)], 0, 2⟩

/-- What is known of it when its margin is to be checked, with a noise of five counts. -/
def marginContext : Context ℚ := { shortContext with deviceBaseline := some ⟨104, 104, 5, 2⟩ }

def marginCheck : Except (CalibrationError ℚ) (MidTrim ℚ) × Run Unit ℚ :=
  (Threshold.recheckMargin shortBench settings.threshold).run ⟨.new (), marginContext⟩

end Exact

end ThresholdTrim
