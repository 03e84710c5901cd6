import ThresholdTrim.Scalar

/-!
# Scalars that become register values

A register value goes to scalars and back: it is an exact count, some arithmetic is done, and the
result is rounded, bounded and truncated. What that asks of the arithmetic is little. Counts up to
sixteen bits keep their order, a number that is not above a count is at most the count, the smaller
of anything and a count is at most the count, and truncation does not exceed a count it is given
below. Nothing is asked of sums, products or quotients, which may come out as they like, a
not-a-number included, until a register is raised. Then sums and quotients must not fall below the
counts they were made from. Both readings of `Scalar` obey all of it.
-/

namespace ThresholdTrim

open Scalar

/-- Largest register value any register of a device can hold. -/
def maxRegister : Nat := UInt16.size - 1

/-- Scalars whose comparisons and truncation do to register values what they do to numbers. -/
class RegisterScalar (R : Type) [Scalar R] : Prop where
  ofCount_le : ∀ {m n : Nat}, m ≤ n → n ≤ maxRegister → le (ofCount m : R) (ofCount n) = true
  le_of_not_lt : ∀ {x : R} {n : Nat}, n ≤ maxRegister → isFinite x = true →
    lt (ofCount n) x = false → le x (ofCount n) = true
  smaller_le : ∀ (x : R) {n : Nat}, n ≤ maxRegister →
    le (smaller x (ofCount n)) (ofCount n) = true
  toNat_le : ∀ {x : R} {n : Nat}, n ≤ maxRegister → le x (ofCount n) = true → toNat x ≤ n

variable {R : Type} [Scalar R] [RegisterScalar R] {x : R} {top : Nat}

theorem le_clampTo (htop : top ≤ maxRegister) (hfinite : isFinite x = true) :
    le (clampTo top x) (ofCount top) = true := by
  rw [clampTo]
  split
  · exact RegisterScalar.ofCount_le top.zero_le htop
  · split
    · exact RegisterScalar.ofCount_le top.le_refl htop
    · rename_i hbelow
      exact RegisterScalar.le_of_not_lt htop hfinite (Bool.eq_false_iff.mpr hbelow)

theorem toNat_clampTo_le (htop : top ≤ maxRegister) (hfinite : isFinite x = true) :
    toNat (clampTo top x) ≤ top :=
  RegisterScalar.toNat_le htop (le_clampTo htop hfinite)

theorem toNat_smaller_le (htop : top ≤ maxRegister) : toNat (smaller x (ofCount top)) ≤ top :=
  RegisterScalar.toNat_le htop (RegisterScalar.smaller_le x htop)

/-! ## Values that are raised

A register is raised by adding to its value, and then the sum is bounded and truncated again. That
it does rise takes lower bounds, and these are stated as not lying below: a sum that is not a number
is not below anything, and gives way to the bound it is brought under. -/

/-- Scalars in which a register that is added to does not come out lower. -/
class RaisingScalar (R : Type) [Scalar R] : Prop extends RegisterScalar R where
  not_lt_of_le : ∀ {x y : R}, le x y = true → lt y x = false
  not_lt_mono : ∀ {x : R} {m n : Nat}, m ≤ n → n ≤ maxRegister → lt x (ofCount n) = false →
    lt x (ofCount m) = false
  not_lt_add : ∀ {x y : R} {m n : Nat}, m + n ≤ maxRegister → lt x (ofCount m) = false →
    lt y (ofCount n) = false → lt (x + y) (ofCount (m + n)) = false
  le_larger : ∀ (x : R) {y : R}, le y y = true → le y (larger x y) = true
  le_smaller : ∀ {x : R} {n top : Nat}, n ≤ top → top ≤ maxRegister → lt x (ofCount n) = false →
    le (ofCount n) (smaller x (ofCount top)) = true
  le_toNat : ∀ {x : R} {n top : Nat}, top ≤ maxRegister → le (ofCount n) x = true →
    le x (ofCount top) = true → n ≤ toNat x

section

variable {R : Type} [Scalar R] [RaisingScalar R] {x y : R} {n top : Nat}

theorem not_lt_ofCount (hn : n ≤ maxRegister) : lt (ofCount n : R) (ofCount n) = false :=
  RaisingScalar.not_lt_of_le (RegisterScalar.ofCount_le n.le_refl hn)

theorem le_toNat_smaller (hle : n ≤ top) (htop : top ≤ maxRegister)
    (hx : lt x (ofCount n) = false) : n ≤ toNat (smaller x (ofCount top)) :=
  RaisingScalar.le_toNat htop (RaisingScalar.le_smaller hle htop hx)
    (RegisterScalar.smaller_le x htop)

/-- What a register becomes when it is meant to go up by a step or more. -/
structure Raised (old new top : Nat) : Prop where
  le : old ≤ new
  inRange : new ≤ top
  lt_or_full : old < new ∨ old = top

/-- A sum not below the next step, or not below the register when that is full already. -/
theorem raised_toNat_smaller (hn : n ≤ top) (htop : top ≤ maxRegister)
    (hstay : lt x (ofCount n) = false)
    (hstep : n + 1 ≤ maxRegister → lt x (ofCount (n + 1)) = false) :
    Raised n (toNat (smaller x (ofCount top))) top := by
  refine ⟨le_toNat_smaller hn htop hstay, toNat_smaller_le htop, ?_⟩
  rcases Nat.lt_or_eq_of_le hn with hlt | rfl
  · exact .inl (le_toNat_smaller hlt htop (hstep (Nat.le_trans hlt htop)))
  · exact .inr rfl

end

/-! ## Requests

What channels are short of is compared, and the largest of it is divided by a slope and rounded up.
A number is one that is at most itself. -/

/-- Scalars in which requests are compared as numbers are, and a positive slope does not turn them
around. -/
class BumpScalar (R : Type) [Scalar R] : Prop extends RaisingScalar R where
  le_trans : ∀ {x y z : R}, le x y = true → le y z = true → le x z = true
  le_self_of_lt : ∀ {x y : R}, lt x y = true → le y y = true
  lt_neg : ∀ {x : R}, lt x (ofCount 0) = true → lt (ofCount 0) (-x) = true
  larger_eq : ∀ x y : R, larger x y = x ∨ larger x y = y
  le_larger_left : ∀ {x : R} (y : R), le x x = true → le x (larger x y) = true
  not_lt_div : ∀ {x y : R}, lt x (ofCount 0) = false → lt (ofCount 0) y = true →
    lt (x / y) (ofCount 0) = false
  not_lt_ceil : ∀ {x : R}, lt x (ofCount 0) = false → lt (ceil x) (ofCount 0) = false

section

variable {R : Type} [Scalar R] {x : R} {xs : List R}

/-- A member that no other exceeds. -/
structure IsLargest (xs : List R) (x : R) : Prop where
  mem : x ∈ xs
  le : ∀ y ∈ xs, le y x = true

variable [BumpScalar R]

theorem le_foldl_larger (hx : le x x = true) (hxs : ∀ y ∈ xs, le y y = true) :
    le x (xs.foldl larger x) = true ∧ ∀ y ∈ xs, le y (xs.foldl larger x) = true := by
  induction xs generalizing x with
  | nil => exact ⟨hx, nofun⟩
  | cons y ys ih =>
    obtain ⟨hy, hys⟩ := List.forall_mem_cons.mp hxs
    have hlarger : le (larger x y) (larger x y) = true := by
      rcases BumpScalar.larger_eq x y with heq | heq
      · rwa [heq]
      · rwa [heq]
    obtain ⟨hfold, hmem⟩ := ih hlarger hys
    refine ⟨BumpScalar.le_trans (BumpScalar.le_larger_left y hx) hfold, ?_⟩
    exact List.forall_mem_cons.mpr ⟨BumpScalar.le_trans (RaisingScalar.le_larger x hy) hfold, hmem⟩

theorem foldl_larger_mem : xs.foldl larger x = x ∨ xs.foldl larger x ∈ xs := by
  induction xs generalizing x with
  | nil => exact .inl rfl
  | cons y ys ih =>
    rw [List.foldl_cons, List.mem_cons]
    rcases ih with heq | hmem
    · rw [heq]
      exact (BumpScalar.larger_eq x y).imp_right .inl
    · exact .inr (.inr hmem)

/-- The largest of positive numbers is found by going through them from zero. -/
theorem isLargest_foldl_larger (hne : xs ≠ []) (hpos : ∀ y ∈ xs, lt (ofCount 0) y = true) :
    IsLargest xs (xs.foldl larger (ofCount 0)) := by
  have hzero : le (ofCount 0 : R) (ofCount 0) = true :=
    RegisterScalar.ofCount_le (Nat.le_refl 0) (Nat.zero_le _)
  have hle := (le_foldl_larger hzero fun y hmem ↦ BumpScalar.le_self_of_lt (hpos y hmem)).2
  refine ⟨foldl_larger_mem.resolve_left fun heq ↦ ?_, hle⟩
  obtain ⟨y, hmem⟩ := List.exists_mem_of_ne_nil xs hne
  have hy := heq ▸ hle y hmem
  exact Bool.noConfusion ((hpos y hmem).symm.trans (RaisingScalar.not_lt_of_le hy))

end

end ThresholdTrim
