import Mathlib
import ThresholdTrim.Proofs.Rank

/-!
# The upper median

Every register value is found by comparing medians, so it matters which of two middle samples a
median is. It is the upper one: the sample at index `length / 2` of the batch in ascending order,
however the batch came to be in that order. Sorting is not the only way to find it. Two counts tell
a median from every other value (`IsUpperMedian`), namely how many samples lie below it and how many
above, and with those any arrangement that has the right number of samples on either side has found
the median (`median_of_partition`).

Ascending order is kept by every monotone map, and the index is a matter of the length alone. So a
monotone map takes medians to medians, and it need not tell all counts apart for that.
-/

namespace ThresholdTrim.Statistics

/-! ## Ascending arrangements -/

section

variable {α β : Type} [LinearOrder α] [LinearOrder β] {xs sorted : List α} {f : α → β}

/-- A list has one ascending arrangement. -/
theorem mergeSort_eq_of_pairwise (hperm : sorted.Perm xs) (hsorted : sorted.Pairwise (· ≤ ·)) :
    xs.mergeSort (· ≤ ·) = sorted := by
  have hsame : (xs.mergeSort (· ≤ ·)).Perm sorted := (List.mergeSort_perm xs _).trans hperm.symm
  exact hsame.eq_of_pairwise' (List.pairwise_mergeSort' (· ≤ ·) xs) hsorted

theorem medianBy_eq_getElem? (hperm : sorted.Perm xs) (hsorted : sorted.Pairwise (· ≤ ·)) :
    medianBy (· ≤ ·) xs = sorted[xs.length / 2]? := by
  rw [medianBy, mergeSort_eq_of_pairwise hperm hsorted]

theorem medianBy_perm {other : List α} (hperm : other.Perm xs) :
    medianBy (· ≤ ·) other = medianBy (· ≤ ·) xs := by
  have hsorted := (List.mergeSort_perm xs (· ≤ ·)).trans hperm.symm
  rw [medianBy_eq_getElem? hsorted (List.pairwise_mergeSort' (· ≤ ·) xs), hperm.length_eq, medianBy]

/-- A map that keeps the order keeps the order of the arrangement. -/
theorem medianBy_map_of_monotone (hf : Monotone f) (xs : List α) :
    medianBy (· ≤ ·) (xs.map f) = (medianBy (· ≤ ·) xs).map f := by
  have hperm : ((xs.mergeSort (· ≤ ·)).map f).Perm (xs.map f) :=
    (List.mergeSort_perm xs _).map f
  have hsorted : ((xs.mergeSort (· ≤ ·)).map f).Pairwise (· ≤ ·) :=
    (List.pairwise_mergeSort' (· ≤ ·) xs).map f fun _ _ hle ↦ hf hle
  rw [medianBy_eq_getElem? hperm hsorted, List.length_map, List.getElem?_map, medianBy]

end

/-! ## Counting either side -/

/-- A sample with at most half of the samples below it, and fewer than half above it. -/
structure IsUpperMedian (samples : List ℕ) (m : ℕ) : Prop where
  mem : m ∈ samples
  below : samples.countP (· < m) ≤ samples.length / 2
  above : samples.countP (m < ·) ≤ samples.length - samples.length / 2 - 1

variable {samples before after : List ℕ} {m m' : ℕ}

/-- Values that a list is made up of are at least as many as the list is long. -/
theorem length_le_countP_add_countP (samples : List ℕ) {p q : ℕ → Bool}
    (h : ∀ x, p x = true ∨ q x = true) :
    samples.length ≤ samples.countP p + samples.countP q := by
  rw [List.length_eq_countP_add_countP p]
  refine Nat.add_le_add_left (List.countP_mono_left fun x _ hx ↦ ?_) _
  exact (h x).resolve_left (by simpa using hx)

/-- Of two medians neither is the larger one: every sample would lie below the one or above the
other, and these are too few. -/
theorem IsUpperMedian.le (h : IsUpperMedian samples m) (h' : IsUpperMedian samples m') :
    m ≤ m' := by
  by_contra hlt
  have hsides : ∀ x, decide (x < m) = true ∨ decide (m' < x) = true := by
    intro x
    rw [decide_eq_true_iff, decide_eq_true_iff]
    omega
  have hlength := length_le_countP_add_countP samples hsides
  have hbelow := h.below
  have habove := h'.above
  have hpos := List.length_pos_of_mem h.mem
  omega

theorem isUpperMedian_of_median (h : median samples = some m) : IsUpperMedian samples m :=
  ⟨mem_of_median h, countP_lt_median h, countP_gt_median h⟩

theorem median_eq_some_iff : median samples = some m ↔ IsUpperMedian samples m := by
  refine ⟨isUpperMedian_of_median, fun h ↦ ?_⟩
  obtain ⟨m', hmedian⟩ := exists_median (List.ne_nil_of_mem h.mem)
  have h' := isUpperMedian_of_median hmedian
  rw [hmedian, Nat.le_antisymm (h'.le h) (h.le h')]

/-- No order is asked for within either side of a partition. -/
theorem median_of_partition (hperm : (before ++ m :: after).Perm samples)
    (hindex : before.length = samples.length / 2) (hbefore : ∀ x ∈ before, x ≤ m)
    (hafter : ∀ x ∈ after, m ≤ x) : median samples = some m := by
  have hlength : before.length + (after.length + 1) = samples.length := by
    rw [← hperm.length_eq, List.length_append, List.length_cons]
  refine median_eq_some_iff.mpr ⟨hperm.subset (by simp), ?_, ?_⟩
  -- what lies below the median is all before it, and what lies above it is all after it
  · have hnone : after.countP (· < m) = 0 :=
      List.countP_eq_zero.mpr fun x hx ↦ by simpa using hafter x hx
    calc samples.countP (· < m)
        = before.countP (· < m) := by
          rw [← hperm.countP_eq, List.countP_append, List.countP_cons, hnone]
          simp
      _ ≤ before.length := List.countP_le_length
      _ = samples.length / 2 := hindex
  · have hnone : before.countP (m < ·) = 0 :=
      List.countP_eq_zero.mpr fun x hx ↦ by simpa using hbefore x hx
    calc samples.countP (m < ·)
        = after.countP (m < ·) := by
          rw [← hperm.countP_eq, List.countP_append, List.countP_cons, hnone]
          simp
      _ ≤ after.length := List.countP_le_length
      _ = samples.length - samples.length / 2 - 1 := by omega

/-- The upper median of a batch: the sample at the middle index of any ascending arrangement, and
the one that any partition about that index finds. It is told by how many samples lie on either side
of it, no order of the samples matters to it, and it goes along with monotone maps. -/
theorem median_is_upper_order_statistic (samples : List ℕ) :
    (median samples = none ↔ samples = []) ∧
    (∀ sorted : List ℕ, sorted.Perm samples → sorted.Pairwise (· ≤ ·) →
      median samples = sorted[samples.length / 2]?) ∧
    (∀ m, median samples = some m ↔ IsUpperMedian samples m) ∧
    (∀ before m after, (before ++ m :: after).Perm samples →
      before.length = samples.length / 2 → (∀ x ∈ before, x ≤ m) → (∀ x ∈ after, m ≤ x) →
        median samples = some m) ∧
    (∀ other : List ℕ, other.Perm samples → median other = median samples) ∧
    ∀ {β : Type} [LinearOrder β] (f : ℕ → β), Monotone f →
      medianBy (· ≤ ·) (samples.map f) = (median samples).map f := by
  refine ⟨medianBy_eq_none_iff, fun sorted hperm hsorted ↦ ?_, fun m ↦ median_eq_some_iff,
    fun before m after hperm hindex hbefore hafter ↦ ?_, fun other hperm ↦ ?_, fun f hf ↦ ?_⟩
  · exact medianBy_eq_getElem? hperm hsorted
  · exact median_of_partition hperm hindex hbefore hafter
  · exact medianBy_perm hperm
  · exact medianBy_map_of_monotone hf samples

/-- Two samples agree; the upper of the two middle ones is found in any order of the four, and
follows a bound that the largest two samples are cut to. -/
theorem median_is_upper_order_statistic_of_four :
    [3, 3, 7, 9].Perm [9, 3, 7, 3] ∧ median [9, 3, 7, 3] = some 7 ∧
      IsUpperMedian [9, 3, 7, 3] 7 ∧ median [3, 3, 7, 9] = some 7 ∧
      median [5, 3, 5, 3] = some 5 := by
  obtain ⟨_, _, hrank, hpartition, horder, hmap⟩ := median_is_upper_order_statistic [9, 3, 7, 3]
  have hperm : [3, 3, 7, 9].Perm [9, 3, 7, 3] := by decide
  have hmedian : median [9, 3, 7, 3] = some 7 :=
    hpartition [3, 3] 7 [9] hperm rfl (by decide) (by decide)
  refine ⟨hperm, hmedian, (hrank 7).mp hmedian, (horder _ hperm).trans hmedian, ?_⟩
  have hcut : Monotone (min 5 : ℕ → ℕ) := fun _ _ hle ↦ min_le_min_left 5 hle
  exact (hmap (min 5) hcut).trans (congrArg (Option.map (min 5)) hmedian)

end ThresholdTrim.Statistics
