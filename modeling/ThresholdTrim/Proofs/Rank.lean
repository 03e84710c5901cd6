import ThresholdTrim.Statistics

/-!
# The rank of a median

The upper median stands at index `length / 2` of the samples in ascending order. So no more than
that many samples lie below it, and no more than are left behind it lie above it, whatever their
multiplicities. The two bounds differ by the median itself, which is why strictly fewer than half
of the samples can lie above it.
-/

namespace ThresholdTrim.Statistics

/-! ## Ascending lists -/

section

variable {xs : List Nat} {i x : Nat}

/-- The samples below the one at an index come before it. -/
theorem countP_lt_le (h : xs.Pairwise (· ≤ ·)) (hx : xs[i]? = some x) :
    xs.countP (· < x) ≤ i := by
  obtain ⟨hi, rfl⟩ := List.getElem?_eq_some_iff.mp hx
  have hdrop : (xs.drop i).countP (· < xs[i]) = 0 := by
    refine List.countP_eq_zero.mpr fun y hmem ↦ ?_
    obtain ⟨j, hj, rfl⟩ := List.mem_iff_getElem.mp hmem
    rw [List.getElem_drop, decide_eq_true_iff, Nat.not_lt]
    rcases Nat.eq_zero_or_pos j with rfl | hpos
    · exact Nat.le_refl _
    · exact List.pairwise_iff_getElem.mp h i (i + j) _ _ (Nat.lt_add_of_pos_right hpos)
  calc xs.countP (· < xs[i])
      = (xs.take i).countP (· < xs[i]) + (xs.drop i).countP (· < xs[i]) := by
        rw [← List.countP_append, List.take_append_drop]
    _ ≤ (xs.take i).length := by
        rw [hdrop, Nat.add_zero]
        exact List.countP_le_length
    _ ≤ i := List.length_take_le i xs

/-- The samples above the one at an index come after it. -/
theorem countP_gt_le (h : xs.Pairwise (· ≤ ·)) (hx : xs[i]? = some x) :
    xs.countP (x < ·) ≤ xs.length - (i + 1) := by
  obtain ⟨hi, rfl⟩ := List.getElem?_eq_some_iff.mp hx
  have htake : (xs.take (i + 1)).countP (xs[i] < ·) = 0 := by
    refine List.countP_eq_zero.mpr fun y hmem ↦ ?_
    obtain ⟨j, hj, rfl⟩ := List.mem_take_iff_getElem.mp hmem
    rw [decide_eq_true_iff, Nat.not_lt]
    rcases Nat.lt_or_eq_of_le (Nat.le_of_lt_succ (Nat.lt_of_lt_of_le hj (Nat.min_le_left _ _)))
      with hlt | rfl
    · exact List.pairwise_iff_getElem.mp h j i _ hi hlt
    · exact Nat.le_refl _
  calc xs.countP (xs[i] < ·)
      = (xs.take (i + 1)).countP (xs[i] < ·) + (xs.drop (i + 1)).countP (xs[i] < ·) := by
        rw [← List.countP_append, List.take_append_drop]
    _ ≤ (xs.drop (i + 1)).length := by
        rw [htake, Nat.zero_add]
        exact List.countP_le_length
    _ = xs.length - (i + 1) := List.length_drop

end

/-! ## Medians -/

variable {samples : List Nat} {m : Nat}

theorem pairwise_mergeSort_le (samples : List Nat) :
    (samples.mergeSort (· ≤ ·)).Pairwise (· ≤ ·) := by
  have hsorted : (samples.mergeSort (· ≤ ·)).Pairwise fun a b ↦ decide (a ≤ b) = true :=
    List.pairwise_mergeSort (by simpa using fun _ _ _ ↦ Nat.le_trans) (by simpa using Nat.le_total)
      samples
  exact hsorted.imp of_decide_eq_true

/-- Half of the samples at most lie below the median. -/
theorem countP_lt_median (h : median samples = some m) :
    samples.countP (· < m) ≤ samples.length / 2 := by
  rw [← (List.mergeSort_perm samples (· ≤ ·)).countP_eq]
  exact countP_lt_le (pairwise_mergeSort_le samples) h

/-- Strictly fewer than half of the samples lie above the median. -/
theorem countP_gt_median (h : median samples = some m) :
    samples.countP (m < ·) ≤ samples.length - (samples.length / 2 + 1) := by
  have hcount := countP_gt_le (pairwise_mergeSort_le samples) h
  rwa [(List.mergeSort_perm samples (· ≤ ·)).countP_eq, List.length_mergeSort] at hcount

/-- A map that tells counts apart as one order does under another takes medians to medians. -/
theorem medianBy_map {α β : Type} {le : α → α → Bool} {le' : β → β → Bool} {f : α → β}
    {xs : List α} (h : ∀ a ∈ xs, ∀ b ∈ xs, le a b = le' (f a) (f b)) :
    medianBy le' (xs.map f) = (medianBy le xs).map f := by
  rw [medianBy, medianBy, ← List.map_mergeSort h, List.length_map, List.getElem?_map]

end ThresholdTrim.Statistics
