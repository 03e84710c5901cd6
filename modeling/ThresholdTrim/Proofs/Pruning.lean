import ThresholdTrim.Baseline
import ThresholdTrim.Proofs.Binary.Counts
import ThresholdTrim.Proofs.Course.Sampling
import ThresholdTrim.Proofs.Exact
import ThresholdTrim.Proofs.FirstBatch

/-!
# Pruning keeps the median

A batch is pruned around its own median, and the median is one of its samples. A sample differs from
itself by nothing, which is less than any positive cutoff, so every occurrence of the median stays:
no batch is lost to pruning, however far its samples lie apart. That is why a batch with samples
always has a record and a mean.

What this takes of the arithmetic is `PruningScalar`, and it holds of rational numbers and of binary
floating point alike.
-/

namespace ThresholdTrim

open Scalar Statistics

/-- Scalars in which a number differs from itself by zero, and no root is negative. A count in
millivolts is a number. -/
class PruningScalar (R : Type) [Scalar R] : Prop where
  isFinite_toMillivolts : ∀ (flavor : Flavor) {count : Nat}, count ≤ maxRegister →
    isFinite (flavor.toMillivolts (ofCount count : R)) = true
  abs_sub_self : ∀ {x : R}, isFinite x = true → abs (x - x) = ofCount 0
  zero_le_larger : ∀ x : R, le (ofCount 0) (larger x (ofCount 0)) = true
  zero_le_sqrt : ∀ {x : R}, le (ofCount 0) x = true → le (ofCount 0) (sqrt x) = true

instance : PruningScalar ℚ where
  isFinite_toMillivolts _ _ _ := rfl
  abs_sub_self {x} _ := by
    change |x - x| = ((0 : ℕ) : ℚ)
    rw [sub_self, abs_zero, Nat.cast_zero]
  zero_le_larger x := le_rat.mpr (le_max_right x _)
  zero_le_sqrt {x} _ := by
    refine le_rat.mpr ?_
    change ((0 : ℕ) : ℚ) ≤ mkRat (Nat.sqrt x.num.toNat) (Nat.sqrt x.den)
    rw [Rat.mkRat_eq_div, Nat.cast_zero]
    positivity

instance : PruningScalar Float where
  isFinite_toMillivolts flavor _ hcount := Binary.isFinite_toMillivolts flavor hcount
  abs_sub_self h := Binary.abs_sub_self h
  zero_le_larger x := Binary.zero_le_iff.mpr (Binary.isNonneg_larger x)
  zero_le_sqrt h :=
    Binary.zero_le_iff.mpr (Binary.isNonneg_unpack_pack (Binary.isNonneg_sqrt
      (Binary.zero_le_iff.mp h)))

/-- Samples come as sixteen-bit counts. -/
def FrontEnd.SendsCounts {σ : Type} (frontEnd : FrontEnd σ) : Prop :=
  ∀ request state batch, (frontEnd.acquire request state).1 = .ok batch →
    ∀ sample ∈ batch, sample ≤ maxRegister

/-! ## Survivors -/

section

variable {R : Type} [Scalar R] {batch kept : List Nat} {cutoff : R} {flavor : Flavor} {raw : Nat}

/-- What pruning around the median leaves of a batch with samples. -/
structure Statistics.Survivors (batch : List Nat) (cutoff : R) (flavor : Flavor) (raw : Nat)
    (kept : List Nat) : Prop where
  median : Statistics.median batch = some raw
  ne_nil : kept ≠ []
  sublist : kept.Sublist batch
  mem_iff : ∀ sample,
    sample ∈ kept ↔ sample ∈ batch ∧ isClose (ofCount raw) cutoff flavor sample = true
  /-- Every occurrence of the median is kept. -/
  count_median : kept.count raw = batch.count raw

/-- The record tells of a measurement, taken of the samples that were kept. -/
structure BaselineRecord.TakenOf (record : BaselineRecord R) (batch : List Nat) (cutoff : R)
    (flavor : Flavor) (raw : Nat) (kept : List Nat) : Prop where
  isMeasured : record.isMeasured = true
  length : kept.length + record.pruned = batch.length
  pruned_lt : record.pruned < batch.length
  median : ∃ count ∈ batch, record.median = ofCount count ∧
    isClose (ofCount raw) cutoff flavor count = true

namespace BaselineRecord

theorem ofBatch_nil (cutoff : R) (flavor : Flavor) : ofBatch [] cutoff flavor = none := by
  have hmedian : Statistics.median [] = none := medianBy_eq_none_iff.mpr rfl
  rw [ofBatch, hmedian]
  rfl

variable [PruningScalar R]

/-- Pruning keeps the sample it is centred on. -/
theorem isClose_self {count : Nat} (hcount : count ≤ maxRegister)
    (hcutoff : lt (ofCount 0) cutoff = true) (flavor : Flavor) :
    isClose (ofCount count) cutoff flavor count = true := by
  rw [isClose, PruningScalar.abs_sub_self (PruningScalar.isFinite_toMillivolts flavor hcount)]
  exact hcutoff

theorem exists_survivors (hne : batch ≠ []) (hcounts : ∀ sample ∈ batch, sample ≤ maxRegister)
    (hcutoff : lt (ofCount 0) cutoff = true) (flavor : Flavor) :
    ∃ raw, Survivors batch cutoff flavor raw (prune batch (ofCount raw) cutoff flavor) := by
  obtain ⟨raw, hraw⟩ := exists_median hne
  have hmem : raw ∈ batch := mem_of_median hraw
  have hclose := isClose_self (hcounts raw hmem) hcutoff flavor
  refine ⟨raw, hraw, ?_, List.filter_sublist, fun _ ↦ List.mem_filter, List.count_filter hclose⟩
  exact List.ne_nil_of_mem (List.mem_filter.mpr ⟨hmem, hclose⟩)

/-- A record is taken of the samples that survived. -/
theorem exists_takenOf
    (h : Survivors batch cutoff flavor raw (prune batch (ofCount raw) cutoff flavor)) :
    ∃ record, ofBatch batch cutoff flavor = some record ∧
      record.TakenOf batch cutoff flavor raw (prune batch (ofCount raw) cutoff flavor) := by
  obtain ⟨count, hmedian⟩ := exists_median h.ne_nil
  obtain ⟨hcount, hclose⟩ := (h.mem_iff count).mp (mem_of_median hmedian)
  have hlength := h.sublist.length_le
  have hpos := List.length_pos_iff.mpr h.ne_nil
  obtain ⟨summary, hsummary, hlevel, hrms⟩ : ∃ summary : BatchSummary R,
      summarize (prune batch (ofCount raw) cutoff flavor) = some summary ∧
        summary.median = ofCount count ∧ le (ofCount 0) summary.rms = true := by
    rw [summarize, hmedian]
    exact ⟨_, rfl, rfl, PruningScalar.zero_le_sqrt (PruningScalar.zero_le_larger _)⟩
  have hrecord : ofBatch batch cutoff flavor = some ⟨summary.median, summary.rms, _⟩ :=
    Option.bind_eq_some_iff.mpr
      ⟨raw, h.median, Option.bind_eq_some_iff.mpr ⟨summary, hsummary, rfl⟩⟩
  refine ⟨_, hrecord, hrms, ?_, ?_, count, hcount, hlevel, hclose⟩
  · exact Nat.add_sub_cancel' hlength
  · exact Nat.sub_lt (Nat.lt_of_lt_of_le hpos hlength) hpos

/-- Every batch of counts with samples has a record, and it tells of a measurement. -/
theorem exists_measured (hne : batch ≠ []) (hcounts : ∀ sample ∈ batch, sample ≤ maxRegister)
    (hcutoff : lt (ofCount 0) cutoff = true) (flavor : Flavor) :
    ∃ record, ofBatch batch cutoff flavor = some record ∧ record.isMeasured = true := by
  obtain ⟨raw, hsurvivors⟩ := exists_survivors hne hcounts hcutoff flavor
  obtain ⟨record, hrecord, htaken⟩ := exists_takenOf hsurvivors
  exact ⟨record, hrecord, htaken.isMeasured⟩

theorem ofBatch_eq_none_iff (hcounts : ∀ sample ∈ batch, sample ≤ maxRegister)
    (hcutoff : lt (ofCount 0) cutoff = true) (flavor : Flavor) :
    ofBatch batch cutoff flavor = none ↔ batch = [] := by
  constructor
  · intro hnone
    by_contra hne
    obtain ⟨record, hrecord, _⟩ := exists_measured hne hcounts hcutoff flavor
    exact nomatch hnone.symm.trans hrecord
  · rintro rfl
    exact ofBatch_nil cutoff flavor

end BaselineRecord

end

/-! ## Levels -/

namespace Sampler

variable {σ R : Type} {bench : Bench σ R} {request : Request} {link link' : Link σ}
  {batch : List Nat}

/-- A batch that is acquired was sent, and it has samples. -/
theorem exists_sent_of_acquire (h : (acquire bench request).run link = (.ok batch, link')) :
    batch ≠ [] ∧ ∃ state, (bench.frontEnd.acquire request state).1 = .ok batch := by
  obtain ⟨call, _, _, _, hretry⟩ :=
    exists_retry_run bench request (bench.sampling.attempts - 1) link
  cases hanswer : hasSamples (bench.frontEnd.answer request link.frontEnd call) with
  | true =>
    obtain ⟨sent, hsent, hne, husable⟩ := exists_batch_of_hasSamples hanswer
    rw [acquire_run_of_batch (husable ▸ hretry)] at h
    obtain rfl := Except.ok.inj (Prod.mk.inj h).1
    exact ⟨hne, _, hsent⟩
  | false =>
    obtain ⟨reason, hreason⟩ := exists_fruitless hanswer
    rw [acquire_run_of_failure (usable_eq_error_iff.mpr hreason ▸ hretry)] at h
    cases h

/-- An acquisition fails for want of samples, whatever was wrong with the answers. -/
theorem exists_reason_of_acquire {cause : CalibrationError R}
    (h : (acquire bench request).run link = (.error cause, link')) :
    ∃ reason, cause = .sampling request.channel bench.sampling.attempts reason := by
  obtain ⟨call, _, _, _, hretry⟩ :=
    exists_retry_run bench request (bench.sampling.attempts - 1) link
  rcases hanswer : usable (bench.frontEnd.answer request link.frontEnd call) with reason | batch
  · rw [acquire_run_of_failure (hanswer ▸ hretry)] at h
    exact ⟨reason, (Except.error.inj (Prod.mk.inj h).1).symm⟩
  · rw [acquire_run_of_batch (hanswer ▸ hretry)] at h
    cases h

variable [Scalar R] [PruningScalar R] {channel : ChannelKey} {setting : Setting} {margin : R}

/-- A batch that is acquired has a level: the mean of what pruning leaves of it. -/
theorem prunedMeanLevel_run_of_batch (hbench : bench.frontEnd.SendsCounts)
    (hmargin : lt (ofCount 0) margin = true) (flavor : Flavor)
    (h : (acquire bench ⟨channel, setting, bench.sampling.oversampled⟩).run link =
      (.ok batch, link')) :
    ∃ raw, Survivors batch margin flavor raw (prune batch (ofCount raw) margin flavor) ∧
      (prunedMeanLevel bench channel setting margin flavor).run link =
        (.ok (mean (ofCounts (prune batch (ofCount raw) margin flavor))), link') := by
  obtain ⟨hne, state, hsent⟩ := exists_sent_of_acquire h
  obtain ⟨raw, hsurvivors⟩ :=
    BaselineRecord.exists_survivors hne (hbench _ state batch hsent) hmargin flavor
  refine ⟨raw, hsurvivors, ?_⟩
  rw [prunedMeanLevel, run_bind, h]
  dsimp only
  rw [hsurvivors.median]
  dsimp only
  split
  · rename_i hkept
    exact absurd hkept hsurvivors.ne_nil
  · rfl

theorem prunedMeanLevel_ne_noData (hbench : bench.frontEnd.SendsCounts)
    (hmargin : lt (ofCount 0) margin = true) (flavor : Flavor) :
    ((prunedMeanLevel bench channel setting margin flavor).run link).1 ≠ .error .noData := by
  rcases hacquire : (acquire bench ⟨channel, setting, bench.sampling.oversampled⟩).run link with
    ⟨cause | batch, link'⟩
  · obtain ⟨reason, rfl⟩ := exists_reason_of_acquire hacquire
    rw [prunedMeanLevel, run_bind, hacquire]
    exact nofun
  · obtain ⟨_, _, hrun⟩ := prunedMeanLevel_run_of_batch hbench hmargin flavor hacquire
    rw [hrun]
    exact nofun

end Sampler

/-- Around the median of a batch nothing that matters is pruned: the samples that stay hold every
occurrence of it, a record is taken of them unless there were no samples at all, and so is a level
of every batch that is acquired. -/
theorem Statistics.pruning_keeps_median {R : Type} [Scalar R] [PruningScalar R] {cutoff : R}
    (hcutoff : lt (ofCount 0) cutoff = true) (flavor : Flavor) :
    (∀ batch : List Nat, (∀ sample ∈ batch, sample ≤ maxRegister) →
      (BaselineRecord.ofBatch batch cutoff flavor = none ↔ batch = []) ∧
      (batch ≠ [] → ∃ raw record,
        Survivors batch cutoff flavor raw (prune batch (ofCount raw) cutoff flavor) ∧
        BaselineRecord.ofBatch batch cutoff flavor = some record ∧
        record.TakenOf batch cutoff flavor raw (prune batch (ofCount raw) cutoff flavor))) ∧
    ∀ {σ : Type} (bench : Bench σ R), bench.frontEnd.SendsCounts →
      ∀ (channel : ChannelKey) (setting : Setting) (link : Link σ),
        (∀ batch after, (Sampler.acquire bench
            ⟨channel, setting, bench.sampling.oversampled⟩).run link = (.ok batch, after) →
          ∃ raw, Survivors batch cutoff flavor raw (prune batch (ofCount raw) cutoff flavor) ∧
            (Sampler.prunedMeanLevel bench channel setting cutoff flavor).run link =
              (.ok (mean (ofCounts (prune batch (ofCount raw) cutoff flavor))), after)) ∧
        ((Sampler.prunedMeanLevel bench channel setting cutoff flavor).run link).1 ≠
          .error .noData := by
  constructor
  · intro batch hcounts
    refine ⟨BaselineRecord.ofBatch_eq_none_iff hcounts hcutoff flavor, fun hne ↦ ?_⟩
    obtain ⟨raw, hsurvivors⟩ := BaselineRecord.exists_survivors hne hcounts hcutoff flavor
    obtain ⟨record, hrecord, htaken⟩ := BaselineRecord.exists_takenOf hsurvivors
    exact ⟨raw, record, hsurvivors, hrecord, htaken⟩
  · intro σ bench hbench channel setting link
    refine ⟨fun batch after hacquire ↦ ?_, ?_⟩
    · exact Sampler.prunedMeanLevel_run_of_batch hbench hcutoff flavor hacquire
    · exact Sampler.prunedMeanLevel_ne_noData hbench hcutoff flavor

namespace Statistics

/-- A batch that is nowhere near its mean. -/
def clusters : List Nat := [600, 4000, 600, 4000]

/-- A front-end that never sends anything else. -/
def clustersBench : Bench Unit Float where
  frontEnd := ⟨fun _ _ ↦ (.ok clusters, ()), fun _ _ _ ↦ (.ok (), ())⟩
  sampling := Settings.defaultSampling

/-- In binary floating point, a batch of two clusters keeps the upper one, and so does its level. -/
theorem pruning_keeps_median_clusters :
    lt (ofCount 0) (ofCount 10 : Float) = true ∧
      Survivors clusters (ofCount 10 : Float) .sfeb 4000 [4000, 4000] ∧
      (∃ record : BaselineRecord Float,
        BaselineRecord.ofBatch clusters (ofCount 10) .sfeb = some record ∧
        record.isMeasured = true ∧ record.pruned = 2 ∧ record.median = ofCount 4000) ∧
      clustersBench.frontEnd.SendsCounts ∧
      ((Sampler.prunedMeanLevel clustersBench (Exact.spec.key.channel 0) .baseline (ofCount 10)
        .sfeb).run (.new ())).1 = .ok (mean (ofCounts [4000, 4000])) := by
  have hcutoff : lt (ofCount 0) (ofCount 10 : Float) = true := by decide
  have hcounts : ∀ sample ∈ clusters, sample ≤ maxRegister := by decide
  have hmedian : median clusters = some 4000 := by cbv
  have hkept : prune clusters (ofCount 4000 : Float) (ofCount 10) .sfeb = [4000, 4000] := by
    decide +kernel
  have hfar : isClose (ofCount 4000) (ofCount 10 : Float) .sfeb 600 = false := by decide +kernel
  have hbench : clustersBench.frontEnd.SendsCounts := by
    rintro request state batch ⟨⟩
    exact hcounts
  obtain ⟨hbatches, hlevels⟩ := pruning_keeps_median hcutoff .sfeb
  obtain ⟨raw, record, hsurvivors, hrecord, htaken⟩ := (hbatches clusters hcounts).2 (by decide)
  obtain rfl : 4000 = raw := Option.some.inj (hmedian.symm.trans hsurvivors.median)
  rw [hkept] at hsurvivors htaken
  refine ⟨hcutoff, hsurvivors, ⟨record, hrecord, htaken.isMeasured, ?_, ?_⟩, hbench, ?_⟩
  · exact Nat.add_left_cancel htaken.length
  · obtain ⟨count, hmem, hlevel, hclose⟩ := htaken.median
    have hcount : count = 600 ∨ count = 4000 := by
      simp only [clusters, List.mem_cons, List.not_mem_nil, or_false] at hmem
      omega
    rcases hcount with rfl | rfl
    · exact absurd (hfar.symm.trans hclose) nofun
    · exact hlevel
  · obtain ⟨hacquired, -⟩ :=
      hlevels clustersBench hbench (Exact.spec.key.channel 0) .baseline (.new ())
    obtain ⟨raw, hraw, hlevel⟩ := hacquired clusters _ rfl
    obtain rfl : 4000 = raw := Option.some.inj (hmedian.symm.trans hraw.median)
    rw [hlevel, hkept]

end Statistics

end ThresholdTrim
