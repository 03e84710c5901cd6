import Mathlib
import ThresholdTrim.Statistics

/-!
# The most frequent value

Equal values stand side by side in an ascending list. Its runs of equal neighbours are therefore the
occurrences of its values, one run to a value, and they come in the order of the values (`IsRuns`).
The loop over the runs keeps the mode of the values it has passed, with the number of its
occurrences (`Keeps`). A run that comes later is about a larger value: it takes over only if it is
longer, and so of equally frequent values the smallest stays.

Whether a value is a mode is a matter of how often it and the others occur (`IsMode`). Nothing
depends on the order the values come in.
-/

namespace ThresholdTrim.Statistics

variable {xs passed run other : List ℤ} {runs : List (List ℤ)} {best : Option (ℤ × ℕ)} {u v w : ℤ}
  {n : ℕ}

/-- No value occurs more often, and every other one that occurs as often is larger. -/
structure IsMode (xs : List ℤ) (v : ℤ) : Prop where
  most : ∀ w, xs.count w ≤ xs.count v
  first : ∀ w, w ≠ v → xs.count w = xs.count v → v < w

namespace IsMode

theorem perm (h : IsMode xs v) (hperm : other.Perm xs) : IsMode other v := by
  refine ⟨fun w ↦ ?_, fun w hne ↦ ?_⟩
  · rw [hperm.count_eq, hperm.count_eq]
    exact h.most w
  · rw [hperm.count_eq, hperm.count_eq]
    exact h.first w hne

theorem unique (h : IsMode xs v) (h' : IsMode xs w) : v = w := by
  by_contra hne
  have hcount : xs.count w = xs.count v := Nat.le_antisymm (h.most w) (h'.most v)
  exact lt_asymm (h.first w (Ne.symm hne) hcount) (h'.first v hne hcount.symm)

/-- In an empty list all values are equally frequent, and none is the smallest. -/
theorem mem (h : IsMode xs v) : v ∈ xs := by
  by_contra hnot
  have hnone : xs.count v = 0 := List.count_eq_zero.mpr hnot
  have hbelow := h.first (v - 1) (by omega) (Nat.le_antisymm (h.most _) (by omega))
  omega

/-- A run takes over if it is longer than any value before it is frequent. -/
theorem append_longer (hlonger : ∀ w, passed.count w < n) :
    IsMode (passed ++ List.replicate n v) v := by
  refine ⟨fun w ↦ ?_, fun w hne hcount ↦ ?_⟩
  · have hw := hlonger w
    rw [List.count_append, List.count_append, List.count_replicate, List.count_replicate_self]
    split
    · rename_i hsame
      rw [eq_of_beq hsame]
    · omega
  · have hw := hlonger w
    rw [List.count_append, List.count_append, List.count_replicate_self,
      List.count_eq_zero.mpr fun hmem ↦ hne (List.eq_of_mem_replicate hmem)] at hcount
    omega

/-- A run that is no longer, of a larger value, leaves the mode as it is. -/
theorem append_shorter (h : IsMode passed u) (hnew : v ∉ passed) (hlater : u < v)
    (hshort : n ≤ passed.count u) : IsMode (passed ++ List.replicate n v) u := by
  have hsame : (passed ++ List.replicate n v).count u = passed.count u := by
    rw [List.count_append,
      List.count_eq_zero.mpr fun hmem ↦ hlater.ne (List.eq_of_mem_replicate hmem), Nat.add_zero]
  have hrun : (passed ++ List.replicate n v).count v = n := by
    rw [List.count_append, List.count_eq_zero.mpr hnew, List.count_replicate_self, Nat.zero_add]
  have hother : ∀ w ≠ v, (passed ++ List.replicate n v).count w = passed.count w := by
    intro w hne
    rw [List.count_append,
      List.count_eq_zero.mpr fun hmem ↦ hne (List.eq_of_mem_replicate hmem), Nat.add_zero]
  refine ⟨fun w ↦ ?_, fun w hne hcount ↦ ?_⟩
  · by_cases hw : w = v
    · rw [hw, hrun, hsame]
      exact hshort
    · rw [hother w hw, hsame]
      exact h.most w
  · by_cases hw : w = v
    · rwa [hw]
    · rw [hother w hw, hsame] at hcount
      exact h.first w hne hcount

end IsMode

/-- Only the values that occur have to be compared. -/
theorem isMode_iff : IsMode xs v ↔
    v ∈ xs ∧ ∀ w ∈ xs, w ≠ v → xs.count w < xs.count v ∨ xs.count w = xs.count v ∧ v < w := by
  constructor
  · intro h
    refine ⟨h.mem, fun w _ hne ↦ ?_⟩
    rcases Nat.lt_or_eq_of_le (h.most w) with hless | hsame
    · exact .inl hless
    · exact .inr ⟨hsame, h.first w hne hsame⟩
  · rintro ⟨hmem, hothers⟩
    have hpos : 0 < xs.count v := List.count_pos_iff.mpr hmem
    have hcases : ∀ w ≠ v, xs.count w < xs.count v ∨ xs.count w = xs.count v ∧ v < w := by
      intro w hne
      by_cases hw : w ∈ xs
      · exact hothers w hw hne
      · exact .inl (List.count_eq_zero.mpr hw ▸ hpos)
    refine ⟨fun w ↦ ?_, fun w hne hsame ↦ ?_⟩
    · rcases eq_or_ne w v with rfl | hne
      · exact Nat.le_refl _
      · exact (hcases w hne).elim Nat.le_of_lt fun h ↦ h.1.le
    · exact ((hcases w hne).resolve_left fun hless ↦ hless.ne hsame).2

instance : Decidable (IsMode xs v) := decidable_of_iff _ isMode_iff.symm

/-! ## Runs -/

/-- Lists of one value each, of ever larger values. -/
structure IsRuns (runs : List (List ℤ)) : Prop where
  replicate : ∀ run ∈ runs, ∃ v n, run = List.replicate (n + 1) v
  ascending : runs.Pairwise fun before after ↦ ∀ x ∈ before, ∀ y ∈ after, x < y

/-- Equal neighbours all the way through make a run of one value. -/
theorem exists_replicate_of_isChain (hne : run ≠ [])
    (h : run.IsChain fun x y ↦ (x == y) = true) : ∃ v n, run = List.replicate (n + 1) v := by
  have hchain : run.IsChain Eq := h.imp fun _ _ heq ↦ eq_of_beq heq
  match run, hne, hchain.pairwise with
  | v :: tail, _, hpairwise =>
    have htail : tail = List.replicate tail.length v :=
      List.eq_replicate_of_mem fun x hx ↦ ((List.pairwise_cons.mp hpairwise).1 x hx).symm
    exact ⟨v, tail.length, by rw [List.replicate_succ, ← htail]⟩

/-- Runs whose values do not fall and change from one run to the next have ever larger values. -/
theorem pairwise_lt_of_isChain (hreplicate : ∀ run ∈ runs, ∃ v n, run = List.replicate (n + 1) v)
    (hle : runs.Pairwise fun before after ↦ ∀ x ∈ before, ∀ y ∈ after, x ≤ y)
    (hchain : runs.IsChain fun before after ↦
      ∃ (ha : before ≠ []) (hb : after ≠ []), (before.getLast ha == after.head hb) = false) :
    runs.Pairwise fun before after ↦ ∀ x ∈ before, ∀ y ∈ after, x < y := by
  induction runs with
  | nil => exact .nil
  | cons run rest ih =>
    obtain ⟨hrun, hrest⟩ := List.forall_mem_cons.mp hreplicate
    obtain ⟨hfirst, hle⟩ := List.pairwise_cons.mp hle
    obtain ⟨hnext, hchain⟩ := List.isChain_cons.mp hchain
    have hascending := ih hrest hle hchain
    refine List.pairwise_cons.mpr ⟨fun later hlater x hx y hy ↦ ?_, hascending⟩
    match rest, hlater with
    | next :: rest, hlater =>
      obtain ⟨v, n, rfl⟩ := hrun
      obtain ⟨w, m, rfl⟩ := hrest next List.mem_cons_self
      obtain rfl : x = v := List.eq_of_mem_replicate hx
      have hw : w ∈ List.replicate (m + 1) w := by simp
      -- the value of the next run is larger, and those after that are larger still
      have hlt : x < w := by
        obtain ⟨_, _, hdiffer⟩ := hnext _ rfl
        refine lt_of_le_of_ne (hfirst _ List.mem_cons_self x hx w hw) ?_
        simpa using hdiffer
      rcases List.mem_cons.mp hlater with rfl | hlater
      · rwa [List.eq_of_mem_replicate hy]
      · exact hlt.trans ((List.pairwise_cons.mp hascending).1 later hlater w hw y hy)

theorem isRuns_splitBy (hsorted : xs.Pairwise (· ≤ ·)) : IsRuns (xs.splitBy (· == ·)) := by
  have hreplicate : ∀ run ∈ xs.splitBy (· == ·), ∃ v n, run = List.replicate (n + 1) v :=
    fun run hmem ↦ exists_replicate_of_isChain (List.ne_nil_of_mem_splitBy hmem)
      (List.isChain_of_mem_splitBy hmem)
  have hle : (xs.splitBy (· == ·)).Pairwise fun before after ↦
      ∀ x ∈ before, ∀ y ∈ after, x ≤ y := by
    rw [← List.flatten_splitBy (· == ·) xs] at hsorted
    exact (List.pairwise_flatten.mp hsorted).2
  exact ⟨hreplicate, pairwise_lt_of_isChain hreplicate hle (List.isChain_getLast_head_splitBy _ xs)⟩

/-! ## The loop over the runs -/

/-- What the loop has of the values it has passed: their mode and how often it occurs. -/
def Keeps (best : Option (ℤ × ℕ)) (passed : List ℤ) : Prop :=
  match best with
  | none => passed = []
  | some (v, n) => IsMode passed v ∧ passed.count v = n

theorem longerRun_none (v : ℤ) (n : ℕ) :
    longerRun none (List.replicate (n + 1) v) = some (v, n + 1) := by
  rw [List.replicate_succ, longerRun, List.length_cons, List.length_replicate]

theorem longerRun_some (u v : ℤ) (k n : ℕ) :
    longerRun (some (u, k)) (List.replicate (n + 1) v) =
      if k < n + 1 then some (v, n + 1) else some (u, k) := by
  rw [List.replicate_succ, longerRun, List.length_cons, List.length_replicate]

/-- A run of a value above those passed is taken into account. -/
theorem Keeps.step (h : Keeps best passed) (hlater : ∀ x ∈ passed, x < v) :
    Keeps (longerRun best (List.replicate (n + 1) v)) (passed ++ List.replicate (n + 1) v) := by
  have hnew : v ∉ passed := fun hmem ↦ lt_irrefl v (hlater v hmem)
  have hcount : (passed ++ List.replicate (n + 1) v).count v = n + 1 := by
    rw [List.count_append, List.count_eq_zero.mpr hnew, List.count_replicate_self, Nat.zero_add]
  match best, h with
  | none, h =>
    obtain rfl : passed = [] := h
    rw [longerRun_none]
    exact ⟨.append_longer fun _ ↦ Nat.succ_pos n, hcount⟩
  | some (u, k), ⟨hmode, hk⟩ =>
    rw [longerRun_some]
    split
    · rename_i hlonger
      exact ⟨.append_longer fun w ↦ (hmode.most w).trans_lt (hk ▸ hlonger), hcount⟩
    · rename_i hshort
      have hu := hlater u hmode.mem
      refine ⟨hmode.append_shorter hnew hu (by omega), ?_⟩
      rw [List.count_append,
        List.count_eq_zero.mpr fun hmem ↦ hu.ne (List.eq_of_mem_replicate hmem), hk, Nat.add_zero]

theorem Keeps.foldl (hruns : IsRuns runs) (h : Keeps best passed)
    (hlater : ∀ x ∈ passed, ∀ y ∈ runs.flatten, x < y) :
    Keeps (runs.foldl longerRun best) (passed ++ runs.flatten) := by
  induction runs generalizing best passed with
  | nil => rwa [List.flatten_nil, List.append_nil]
  | cons run rest ih =>
    obtain ⟨⟨v, n, rfl⟩, hrest⟩ := List.forall_mem_cons.mp hruns.replicate
    obtain ⟨hfirst, hascending⟩ := List.pairwise_cons.mp hruns.ascending
    have hv : v ∈ List.replicate (n + 1) v := by simp
    have hstep : Keeps _ (passed ++ List.replicate (n + 1) v) := h.step fun x hx ↦
      hlater x hx v (List.mem_flatten_of_mem List.mem_cons_self hv)
    -- the run joins what has been passed, and the rest of the runs lies above both
    rw [List.foldl_cons, List.flatten_cons, ← List.append_assoc]
    refine ih ⟨hrest, hascending⟩ hstep fun x hx y hy ↦ ?_
    rcases List.mem_append.mp hx with hx | hx
    · exact hlater x hx y (List.mem_append_right _ hy)
    · obtain ⟨later, hmem, hy⟩ := List.mem_flatten.mp hy
      exact hfirst later hmem x hx y hy

/-! ## Modes -/

/-- Whatever the list, the loop ends with its mode, and without one if there is no value. -/
theorem mode_cases (xs : List ℤ) :
    (mode xs = none ∧ xs = []) ∨ ∃ v, mode xs = some v ∧ IsMode xs v := by
  have hruns := isRuns_splitBy (List.pairwise_mergeSort' (· ≤ ·) xs)
  have hperm := (List.mergeSort_perm xs (· ≤ ·)).symm
  have hstart : Keeps none [] := rfl
  have hkeeps := hstart.foldl hruns nofun
  rw [List.flatten_splitBy, List.nil_append] at hkeeps
  rw [mode]
  match hbest : ((xs.mergeSort (· ≤ ·)).splitBy (· == ·)).foldl longerRun none with
  | none =>
    have hnil : xs.mergeSort (· ≤ ·) = [] := by rwa [hbest] at hkeeps
    exact .inl ⟨rfl, (hnil ▸ hperm).eq_nil⟩
  | some (v, n) =>
    rw [hbest] at hkeeps
    exact .inr ⟨v, rfl, hkeeps.1.perm hperm⟩

theorem mode_eq_some_iff : mode xs = some v ↔ IsMode xs v := by
  rcases mode_cases xs with ⟨hnone, rfl⟩ | ⟨w, hsome, hmode⟩
  · exact iff_of_false (by simp [hnone]) fun h ↦ nomatch h.mem
  · rw [hsome, Option.some.injEq]
    exact ⟨fun heq ↦ heq ▸ hmode, hmode.unique⟩

theorem mode_eq_none_iff : mode xs = none ↔ xs = [] := by
  rcases mode_cases xs with ⟨hnone, hnil⟩ | ⟨w, hsome, hmode⟩
  · exact iff_of_true hnone hnil
  · exact iff_of_false (by simp [hsome]) (List.ne_nil_of_mem hmode.mem)

theorem mode_perm (hperm : other.Perm xs) : mode other = mode xs := by
  refine Option.ext fun v ↦ ?_
  rw [mode_eq_some_iff, mode_eq_some_iff]
  exact ⟨fun h ↦ h.perm hperm.symm, fun h ↦ h.perm hperm⟩

/-- The mode of a list is the smallest of its most frequent values, in whatever order they come, and
only an empty list has none. -/
theorem mode_is_smallest_most_frequent (xs : List ℤ) :
    (mode xs = none ↔ xs = []) ∧ (∀ v, mode xs = some v ↔ IsMode xs v) ∧
      ∀ other : List ℤ, other.Perm xs → mode other = mode xs :=
  ⟨mode_eq_none_iff, fun _ ↦ mode_eq_some_iff, fun _ ↦ mode_perm⟩

/-- Two and three occur twice each. -/
theorem mode_is_smallest_most_frequent_tie :
    mode [3, 1, 3, 2, 2] = some 2 ∧ IsMode [3, 1, 3, 2, 2] 2 ∧ mode [2, 3, 2, 1, 3] = some 2 := by
  obtain ⟨_, hmode, horder⟩ := mode_is_smallest_most_frequent [3, 1, 3, 2, 2]
  have htwo : IsMode [3, 1, 3, 2, 2] 2 := by decide
  have hfound := (hmode 2).mpr htwo
  exact ⟨hfound, htwo, (horder [2, 3, 2, 1, 3] (by decide)).trans hfound⟩

end ThresholdTrim.Statistics
