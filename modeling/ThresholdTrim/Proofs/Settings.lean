import ThresholdTrim.Settings

/-!
# Valid settings

What validation asks for, one field each, so that a statement about a run can take what it needs,
and a statement about a configuration can show it.
-/

namespace ThresholdTrim

open Scalar

/-! ## Checks one after the other -/

namespace Check

variable {ε α : Type} {fault : ε} {condition : Bool} {check : Except ε Unit}
  {rest : Unit → Except ε Unit}

theorem bind_eq_ok_iff : check >>= rest = .ok () ↔ check = .ok () ∧ rest () = .ok () := by
  cases check with
  | error => exact ⟨nofun, nofun⟩
  | ok => exact ⟨fun h ↦ ⟨rfl, h⟩, And.right⟩

theorem eq_ok_iff :
    (if condition then .ok () else .error fault : Except ε Unit) = .ok () ↔ condition = true := by
  cases condition with
  | false => exact ⟨nofun, nofun⟩
  | true => exact ⟨fun _ ↦ rfl, fun _ ↦ rfl⟩

theorem eq_ok_of_isOk (h : check.isOk = true) : check = .ok () := by
  cases check with
  | error => cases h
  | ok => rfl

/-- When a list has no fault, none of its members has one. -/
theorem eq_ok_of_forM {check : α → Except ε Unit} {xs : List α} (h : xs.forM check = .ok ())
    {x : α} (hx : x ∈ xs) : check x = .ok () := by
  induction xs with
  | nil => cases hx
  | cons y ys ih =>
    obtain ⟨hhead, htail⟩ := bind_eq_ok_iff.mp h
    cases hx with
    | head => exact hhead
    | tail _ hx => exact ih htail hx

end Check

namespace Settings

variable {R : Type} [Scalar R] {settings : Settings R} {spec : DeviceSpec}

/-- Settings a device can be calibrated with. -/
structure ValidFor (settings : Settings R) (spec : DeviceSpec) : Prop where
  channels : spec.channels ≠ 0
  sampleCount : settings.sampling.sampleCount ≠ 0
  oversampling : settings.sampling.oversampling ≠ 0
  pruneCutoff : lt (ofCount 0) settings.sampling.pruneCutoffMv = true
  maxAttempts : settings.sampling.maxAttempts ≠ 0
  guessPointCount : 2 ≤ settings.threshold.guessPoints.length
  guessPointRange : ∀ dac ∈ settings.threshold.guessPoints, dac ≤ settings.threshold.thdacMax
  slopeMin : lt (ofCount 0) settings.threshold.slopeMin = true
  slopeMax : lt settings.threshold.slopeMin settings.threshold.slopeMax = true
  deviationTolerance : lt (ofCount 0) settings.threshold.deviationTolerance = true
  low_lt_mid : settings.trim.low < settings.trim.mid
  mid_lt_high : settings.trim.mid < settings.trim.high
  high_le_trimMax : settings.trim.high ≤ settings.trim.trimMax

theorem validFor_of_validate (h : settings.validate spec = .ok ()) : settings.ValidFor spec := by
  unfold validate at h
  dsimp only at h
  split at h
  · cases h
  rename_i hchannels
  obtain ⟨hcounts, h⟩ := Check.bind_eq_ok_iff.mp h
  obtain ⟨hcutoff, h⟩ := Check.bind_eq_ok_iff.mp h
  obtain ⟨hattempts, h⟩ := Check.bind_eq_ok_iff.mp h
  obtain ⟨hguesses, h⟩ := Check.bind_eq_ok_iff.mp h
  obtain ⟨hrange, h⟩ := Check.bind_eq_ok_iff.mp h
  obtain ⟨hband, h⟩ := Check.bind_eq_ok_iff.mp h
  obtain ⟨htolerance, htrims⟩ := Check.bind_eq_ok_iff.mp h
  have hcounts := Check.eq_ok_iff.mp hcounts
  have hattempts := Check.eq_ok_iff.mp hattempts
  have hrange := Check.eq_ok_iff.mp hrange
  have hband := Check.eq_ok_iff.mp hband
  have htrims := of_decide_eq_true (Check.eq_ok_iff.mp htrims)
  rw [Bool.and_eq_true, bne_iff_ne, bne_iff_ne] at hcounts
  rw [bne_iff_ne] at hattempts
  rw [List.all_eq_true] at hrange
  rw [Bool.and_eq_true] at hband
  exact {
    channels := hchannels
    sampleCount := hcounts.1
    oversampling := hcounts.2
    pruneCutoff := Check.eq_ok_iff.mp hcutoff
    maxAttempts := hattempts
    guessPointCount := of_decide_eq_true (Check.eq_ok_iff.mp hguesses)
    guessPointRange := fun dac hmem ↦ of_decide_eq_true (hrange dac hmem)
    slopeMin := hband.1
    slopeMax := hband.2
    deviationTolerance := Check.eq_ok_iff.mp htolerance
    low_lt_mid := htrims.1
    mid_lt_high := htrims.2.1
    high_le_trimMax := htrims.2.2 }

/-- Validation asks for nothing else. -/
theorem ValidFor.validate (h : settings.ValidFor spec) : settings.validate spec = .ok () := by
  unfold Settings.validate
  dsimp only
  rw [if_neg h.channels]
  refine Check.bind_eq_ok_iff.mpr ⟨Check.eq_ok_iff.mpr ?_, ?_⟩
  · rw [Bool.and_eq_true, bne_iff_ne, bne_iff_ne]
    exact ⟨h.sampleCount, h.oversampling⟩
  refine Check.bind_eq_ok_iff.mpr ⟨Check.eq_ok_iff.mpr h.pruneCutoff, ?_⟩
  refine Check.bind_eq_ok_iff.mpr ⟨Check.eq_ok_iff.mpr (bne_iff_ne.mpr h.maxAttempts), ?_⟩
  refine Check.bind_eq_ok_iff.mpr ⟨Check.eq_ok_iff.mpr (decide_eq_true h.guessPointCount), ?_⟩
  refine Check.bind_eq_ok_iff.mpr ⟨Check.eq_ok_iff.mpr (List.all_eq_true.mpr ?_), ?_⟩
  · exact fun dac hmem ↦ decide_eq_true (h.guessPointRange dac hmem)
  refine Check.bind_eq_ok_iff.mpr ⟨Check.eq_ok_iff.mpr ?_, ?_⟩
  · rw [Bool.and_eq_true]
    exact ⟨h.slopeMin, h.slopeMax⟩
  refine Check.bind_eq_ok_iff.mpr ⟨Check.eq_ok_iff.mpr h.deviationTolerance, ?_⟩
  exact Check.eq_ok_iff.mpr (decide_eq_true ⟨h.low_lt_mid, h.mid_lt_high, h.high_le_trimMax⟩)

end Settings

end ThresholdTrim
