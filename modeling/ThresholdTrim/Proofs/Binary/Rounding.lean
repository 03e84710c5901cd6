import Mathlib

/-!
# Rounding to the numbers there are

An exact result is rounded to the nearest number that can be stored, and a tie goes to the even one.
The numbers about a magnitude are evenly spaced: their distance is a power of two, which depends on
the binary places of the magnitude alone and does not go below the smallest number there is
(`HasUnit`). So rounding divides by that unit, takes the nearest integer and multiplies again.

Infinity is taken for the number that would come next after the largest one. It is where the
numbers end, and rounding is brought down to it; comparisons then need no case of their own.

Two facts are used of all this. Rounding keeps order (`RoundsTo.mono`), also across a change of
units, since the greater of two units is a bound for the one magnitude from above and for the other
from below. And a number that can be stored is left as it is (`Rounds.self`).
-/

namespace ThresholdTrim.Binary

/-! ## The nearest integer -/

/-- The nearest natural number, the even one of two. -/
def roundEven (t : ℚ) : ℕ :=
  if 2 * (t - ⌊t⌋₊) < 1 then ⌊t⌋₊
  else if 1 < 2 * (t - ⌊t⌋₊) then ⌊t⌋₊ + 1
  else ⌊t⌋₊ + ⌊t⌋₊ % 2

theorem floor_le_roundEven (t : ℚ) : ⌊t⌋₊ ≤ roundEven t := by
  rw [roundEven]
  split_ifs <;> omega

theorem roundEven_le (t : ℚ) : roundEven t ≤ ⌊t⌋₊ + 1 := by
  rw [roundEven]
  split_ifs <;> omega

@[simp] theorem roundEven_natCast (n : ℕ) : roundEven n = n := by
  simp [roundEven]

theorem roundEven_mono : Monotone roundEven := by
  intro s t hle
  rcases (Nat.floor_mono hle).lt_or_eq with hlt | heq
  · exact (roundEven_le s).trans (hlt.trans_le (floor_le_roundEven t))
  · rw [roundEven, roundEven, heq]
    split_ifs
    any_goals omega
    all_goals
      exfalso
      linarith

/-! ## Units -/

/-- The numbers about the magnitude `q` are `2 ^ u` apart. -/
structure HasUnit (q : ℚ) (u : ℤ) : Prop where
  nonneg : 0 ≤ q
  low : -1074 ≤ u
  lt : q < 2 ^ (u + 53)
  le : u = -1074 ∨ 2 ^ (u + 52) ≤ q

theorem two_zpow_pos (u : ℤ) : (0 : ℚ) < 2 ^ u := by
  positivity

theorem two_zpow_le {u v : ℤ} (h : u ≤ v) : (2 : ℚ) ^ u ≤ 2 ^ v :=
  zpow_le_zpow_right₀ one_le_two h

theorem two_pow_mul_zpow (k : ℕ) (u : ℤ) : ((2 ^ k : ℕ) : ℚ) * 2 ^ u = 2 ^ (u + k) := by
  rw [Nat.cast_pow, Nat.cast_ofNat, zpow_add₀ two_ne_zero, zpow_natCast, mul_comm]

/-- Places move between the mantissa and the exponent. -/
theorem natCast_mul_zpow (m k : ℕ) (u : ℤ) : ((m * 2 ^ k : ℕ) : ℚ) * 2 ^ u = m * 2 ^ (u + k) := by
  rw [Nat.cast_mul, mul_assoc, two_pow_mul_zpow]

variable {q q' r r' : ℚ} {u u' : ℤ}

/-- A greater magnitude does not have a smaller unit. -/
theorem HasUnit.unit_le (h : HasUnit q u) (h' : HasUnit q' u') (hle : q ≤ q') : u ≤ u' := by
  by_contra hlt
  have hlow := h'.low
  rcases h.le with heq | hge
  · omega
  · have hpow : (2 : ℚ) ^ (u' + 53) ≤ 2 ^ (u + 52) := two_zpow_le (by omega)
    linarith [h'.lt]

/-- Rounding does not leave the binade, but for its upper end. -/
theorem HasUnit.roundEven_le (h : HasUnit q u) : roundEven (q / 2 ^ u) ≤ 2 ^ 53 := by
  have hdiv : q / 2 ^ u ≤ (2 ^ 53 : ℕ) := by
    rw [div_le_iff₀ (two_zpow_pos u), two_pow_mul_zpow]
    exact h.lt.le
  exact (roundEven_mono hdiv).trans_eq (roundEven_natCast _)

theorem HasUnit.le_roundEven (h : HasUnit q u) : u = -1074 ∨ 2 ^ 52 ≤ roundEven (q / 2 ^ u) := by
  refine h.le.imp_right fun hle ↦ ?_
  have hdiv : ((2 ^ 52 : ℕ) : ℚ) ≤ q / 2 ^ u := by
    rwa [le_div_iff₀ (two_zpow_pos u), two_pow_mul_zpow]
  exact (roundEven_natCast _).symm.trans_le (roundEven_mono hdiv)

/-! ## Magnitudes -/

/-- What infinity is taken for. -/
@[irreducible] def infinite : ℚ := 2 ^ (1024 : ℤ)

theorem two_zpow_le_infinite (h : u ≤ 1024) : 2 ^ u ≤ infinite := by
  rw [infinite]
  exact two_zpow_le h

theorem infinite_le_two_zpow (h : 1024 ≤ u) : infinite ≤ 2 ^ u := by
  rw [infinite]
  exact two_zpow_le h

theorem infinite_pos : 0 < infinite :=
  (two_zpow_pos 0).trans_le (two_zpow_le_infinite (by norm_num))

/-- The magnitude `q` is rounded to `r`. -/
def Rounds (q r : ℚ) : Prop :=
  ∃ u, HasUnit q u ∧ r = min ((roundEven (q / 2 ^ u) : ℚ) * 2 ^ u) infinite

namespace Rounds

theorem nonneg (h : Rounds q r) : 0 ≤ r := by
  obtain ⟨u, _, hr⟩ := h
  rw [hr]
  exact le_min (mul_nonneg (Nat.cast_nonneg _) (two_zpow_pos u).le) infinite_pos.le

theorem mono (h : Rounds q r) (h' : Rounds q' r') (hle : q ≤ q') : r ≤ r' := by
  obtain ⟨u, hunit, hr⟩ := h
  obtain ⟨u', hunit', hr'⟩ := h'
  rw [hr, hr']
  apply min_le_min_right
  rcases (hunit.unit_le hunit' hle).lt_or_eq with hlt | rfl
  · have hlow := hunit.low
    have hupper : (roundEven (q / 2 ^ u) : ℚ) ≤ (2 ^ 53 : ℕ) := Nat.cast_le.mpr hunit.roundEven_le
    have hlower : ((2 ^ 52 : ℕ) : ℚ) ≤ roundEven (q' / 2 ^ u') :=
      Nat.cast_le.mpr (hunit'.le_roundEven.resolve_left (by omega))
    -- the lower end of the greater binade lies between
    calc (roundEven (q / 2 ^ u) : ℚ) * 2 ^ u ≤ (2 ^ 53 : ℕ) * 2 ^ u := by gcongr
      _ = 2 ^ (u + 53) := two_pow_mul_zpow 53 u
      _ ≤ 2 ^ (u' + 52) := two_zpow_le (by omega)
      _ = (2 ^ 52 : ℕ) * 2 ^ u' := (two_pow_mul_zpow 52 u').symm
      _ ≤ (roundEven (q' / 2 ^ u') : ℚ) * 2 ^ u' := by gcongr
  · gcongr
    exact roundEven_mono (by gcongr)

end Rounds

/-! ## Numbers that can be stored -/

/-- A mantissa with as many places as it can have. -/
structure Canonical (m : ℕ) (e : ℤ) : Prop where
  lt : m < 2 ^ 53
  low : -1074 ≤ e
  full : e = -1074 ∨ 2 ^ 52 ≤ m

variable {m n : ℕ} {e : ℤ}

theorem Canonical.hasUnit (h : Canonical m e) : HasUnit (m * 2 ^ e) e where
  nonneg := mul_nonneg m.cast_nonneg (two_zpow_pos e).le
  low := h.low
  lt := by
    have hlt : (m : ℚ) < (2 ^ 53 : ℕ) := Nat.cast_lt.mpr h.lt
    calc (m : ℚ) * 2 ^ e < (2 ^ 53 : ℕ) * 2 ^ e := by gcongr
      _ = 2 ^ (e + 53) := two_pow_mul_zpow 53 e
  le := by
    refine h.full.imp_right fun hfull ↦ ?_
    have hle : ((2 ^ 52 : ℕ) : ℚ) ≤ m := Nat.cast_le.mpr hfull
    calc (2 : ℚ) ^ (e + 52) = (2 ^ 52 : ℕ) * 2 ^ e := (two_pow_mul_zpow 52 e).symm
      _ ≤ m * 2 ^ e := by gcongr

theorem Rounds.self (h : Canonical m e) (hle : (m : ℚ) * 2 ^ e ≤ infinite) :
    Rounds (m * 2 ^ e) (m * 2 ^ e) := by
  refine ⟨e, h.hasUnit, ?_⟩
  rw [mul_div_cancel_right₀ _ (two_zpow_pos e).ne', roundEven_natCast, min_eq_left hle]

theorem rounds_infinite : Rounds infinite infinite := by
  have hinfinite : ((2 ^ 52 : ℕ) : ℚ) * 2 ^ (972 : ℤ) = infinite := by
    rw [infinite]
    exact two_pow_mul_zpow 52 972
  rw [← hinfinite]
  exact .self ⟨by norm_num, by norm_num, .inr le_rfl⟩ hinfinite.le

/-- A count of up to 53 places can be stored. -/
theorem exists_canonical (hn : n < 2 ^ 53) : ∃ m e, Canonical m e ∧ (n : ℚ) = m * 2 ^ e := by
  rcases n.eq_zero_or_pos with rfl | hpos
  · exact ⟨0, -1074, ⟨by norm_num, le_rfl, .inl rfl⟩, by simp⟩
  · have hlog : n.log2 ≤ 52 := Nat.le_of_lt_succ ((Nat.log2_lt hpos.ne').mpr hn)
    have hplaces : ((n.log2 : ℤ) - 52) + (52 - n.log2 : ℕ) = 0 := by omega
    refine ⟨n * 2 ^ (52 - n.log2), n.log2 - 52, ⟨?_, by omega, .inr ?_⟩, ?_⟩
    · calc n * 2 ^ (52 - n.log2) < 2 ^ (n.log2 + 1) * 2 ^ (52 - n.log2) := by
            gcongr
            exact Nat.lt_log2_self
        _ = 2 ^ 53 := by
          rw [← pow_add]
          congr 1
          omega
    · calc 2 ^ 52 = 2 ^ n.log2 * 2 ^ (52 - n.log2) := by
            rw [← pow_add]
            congr 1
            omega
        _ ≤ n * 2 ^ (52 - n.log2) := by
          gcongr
          exact Nat.log2_self_le hpos.ne'
    · rw [natCast_mul_zpow, hplaces, zpow_zero, mul_one]

theorem natCast_lt_infinite (hn : n < 2 ^ 53) : (n : ℚ) < infinite :=
  calc (n : ℚ) < (2 ^ 53 : ℕ) := Nat.cast_lt.mpr hn
    _ = (2 ^ 53 : ℕ) * 2 ^ (0 : ℤ) := by rw [zpow_zero, mul_one]
    _ = 2 ^ (53 : ℤ) := two_pow_mul_zpow 53 0
    _ ≤ infinite := two_zpow_le_infinite (by norm_num)

theorem rounds_natCast (hn : n < 2 ^ 53) : Rounds n n := by
  have hle := (natCast_lt_infinite hn).le
  obtain ⟨m, e, hcanonical, heq⟩ := exists_canonical hn
  rw [heq] at hle ⊢
  exact .self hcanonical hle

theorem rounds_zero : Rounds 0 0 := by
  exact_mod_cast rounds_natCast (n := 0) (by norm_num)

/-! ## Signed numbers -/

/-- The number `q` is rounded to `r`, as its magnitude is. -/
inductive RoundsTo : ℚ → ℚ → Prop
  | nonneg {q r : ℚ} (h : Rounds q r) : RoundsTo q r
  | nonpos {q r : ℚ} (h : Rounds q r) : RoundsTo (-q) (-r)

namespace RoundsTo

theorem neg (h : RoundsTo q r) : RoundsTo (-q) (-r) := by
  cases h with
  | nonneg h => exact .nonpos h
  | nonpos h =>
    rw [neg_neg, neg_neg]
    exact .nonneg h

theorem mono (h : RoundsTo q r) (h' : RoundsTo q' r') (hle : q ≤ q') : r ≤ r' := by
  cases h with
  | nonneg h =>
    cases h' with
    | nonneg h' => exact h.mono h' hle
    | nonpos h' =>
      -- both are zero
      have ⟨_, hunit, _⟩ := h
      have ⟨_, hunit', _⟩ := h'
      have hq := hunit.nonneg
      have hq' := hunit'.nonneg
      have hr := h.mono rounds_zero (by linarith)
      have hr' := h'.mono rounds_zero (by linarith)
      linarith
  | nonpos h =>
    cases h' with
    | nonneg h' => linarith [h.nonneg, h'.nonneg]
    | nonpos h' => exact neg_le_neg (h'.mono h (neg_le_neg_iff.mp hle))

theorem unique (h : RoundsTo q r) (h' : RoundsTo q r') : r = r' :=
  le_antisymm (h.mono h' le_rfl) (h'.mono h le_rfl)

end RoundsTo

end ThresholdTrim.Binary
