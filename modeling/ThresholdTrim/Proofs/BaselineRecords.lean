import ThresholdTrim.Proofs.Pruning
import ThresholdTrim.Proofs.UsableDevices

/-!
# The records baseline sampling leaves

That a channel was measured is not stored anywhere. It is read off its record, where a negative
spread stands for no measurement, while the mask says on its own which channels are in use. The two
agree because of what a spread is: whatever batch it is taken of, pruning keeps the raw median, so
something is left to take it of, and a root is not negative.

The loop over the channels is followed link by link. `Turn` is what one channel can come to, with
the link before and after it; the context in the end is the fresh one with what the turns came to
entered in it, and the device baseline is taken over the channels in use.
-/

namespace ThresholdTrim

open Scalar Statistics

/-- Scalars in which a batch leaves a spread, and no spread is negative but the one that stands for
no measurement. -/
class SpreadScalar (R : Type) [Scalar R] : Prop extends ClassifierScalar R, PruningScalar R

instance : SpreadScalar ℚ where

instance : SpreadScalar Float where

variable {σ R : Type} {bench : Bench σ R} {geometry : Geometry} {spec : DeviceSpec} {channel : Nat}
  {link link' : Link σ} {batch : List Nat} [Scalar R] {context : Context R}

theorem BaselineRecord.isMeasured_unmeasured [SpreadScalar R] :
    (unmeasured : BaselineRecord R).isMeasured = false :=
  ClassifierScalar.not_nonneg

/-! ## Aggregates -/

/-- The device baseline is taken over these records. -/
structure DeviceBaseline.IsOver (device : DeviceBaseline R) (records : List (BaselineRecord R)) :
    Prop where
  channels : device.channels = records.length
  median : scalarMedian (records.map BaselineRecord.median) = some device.median
  mean : device.mean = Statistics.mean (records.map BaselineRecord.median)
  rms : scalarMedian (records.map BaselineRecord.rms) = some device.rms

section

variable {records : List (BaselineRecord R)} {device : DeviceBaseline R}

theorem DeviceBaseline.IsOver.ne_nil (h : device.IsOver records) : records ≠ [] := by
  rintro rfl
  exact nomatch mem_of_scalarMedian h.median

end

/-- The channels in use are those that were measured. -/
structure Context.UsesMeasured (context : Context R) : Prop where
  fits : context.Fits
  records : context.baselines.length = context.spec.channels
  inUse_iff : ∀ channel < context.spec.channels,
    context.mask.isMasked channel = false ↔ (context.baseline channel).isMeasured = true

namespace Context.UsesMeasured

theorem unmasked_eq (h : context.UsesMeasured) : context.mask.unmasked =
    (List.range context.spec.channels).filter fun channel ↦
      (context.baseline channel).isMeasured := by
  rw [ChannelMask.unmasked, h.fits]
  refine List.filter_congr fun channel hmem ↦ ?_
  rw [Bool.eq_iff_iff, Bool.not_eq_true', h.inUse_iff channel (List.mem_range.mp hmem)]

end Context.UsesMeasured

/-! ## Turns -/

namespace Baseline

/-- What the turn of a channel comes to: the link after it, why the channel is masked if it is, and
its record. -/
inductive Turn (bench : Bench σ R) (geometry : Geometry) (spec : DeviceSpec) (channel : Nat)
    (link : Link σ) : Link σ → Option MaskReason → BaselineRecord R → Prop
  | unconnected (hgeometry : geometry.isUnconnected (spec.key.channel channel) = true) :
    Turn bench geometry spec channel link (link.enter (.masked channel .unconnected))
      (some .unconnected) .unmeasured
  | measured {batch : List Nat} {after : Link σ} {record : BaselineRecord R}
    (hgeometry : geometry.isUnconnected (spec.key.channel channel) = false)
    (hacquire : (Sampler.acquire bench
      ⟨spec.key.channel channel, .baseline, bench.sampling.oversampled⟩).run link =
        (.ok batch, after))
    (hrecord : BaselineRecord.ofBatch batch bench.sampling.pruneCutoffMv spec.flavor = some record)
    (hmeasured : record.isMeasured = true) :
    Turn bench geometry spec channel link after none record
  | failed {cause : CalibrationError R} {after : Link σ}
    (hgeometry : geometry.isUnconnected (spec.key.channel channel) = false)
    (hacquire : (Sampler.acquire bench
      ⟨spec.key.channel channel, .baseline, bench.sampling.oversampled⟩).run link =
        (.error cause, after)) :
    Turn bench geometry spec channel link
      ((after.enter (.notice .noBaseline)).enter (.masked channel .noData)) (some .noData)
      .unmeasured

/-- The turn of a channel, and what it leaves alone. -/
structure TakesTurn (bench : Bench σ R) (geometry : Geometry) (channel : Nat)
    (before after : Run σ R) : Prop where
  turn : Turn bench geometry before.context.spec channel before.link after.link
    (after.context.mask.reason channel) (after.context.baseline channel)
  reason : ∀ other ≠ channel,
    after.context.mask.reason other = before.context.mask.reason other
  baseline : ∀ other ≠ channel, after.context.baseline other = before.context.baseline other
  context : after.context = { before.context with
    mask := after.context.mask, baselines := after.context.baselines }
  places : after.context.mask.reasons.length = before.context.mask.reasons.length
  records : after.context.baselines.length = before.context.baselines.length

/-- A channel nothing is known about, on a context with a place for it. -/
structure Fresh (context : Context R) (channel : Nat) : Prop where
  place : channel < context.mask.reasons.length
  record : channel < context.baselines.length
  reason : context.mask.reason channel = none
  baseline : context.baseline channel = .unmeasured

section

variable {before : Run σ R}

variable [SpreadScalar R]

end

/-! ## The loop over the channels -/

/-- The first channels have taken their turns, one after the other, and those that are left are as
they were. -/
structure Progress (bench : Bench σ R) (geometry : Geometry) (start : Run σ R) (visited : Nat)
    (run : Run σ R) : Prop where
  turns : ∃ links : Nat → Link σ, links 0 = start.link ∧ links visited = run.link ∧
    ∀ channel < visited, Turn bench geometry start.context.spec channel (links channel)
      (links (channel + 1)) (run.context.mask.reason channel) (run.context.baseline channel)
  left : ∀ channel, visited ≤ channel → channel < start.context.spec.channels →
    Fresh run.context channel
  context : run.context = { start.context with
    mask := run.context.mask, baselines := run.context.baselines }
  places : run.context.mask.reasons.length = start.context.mask.reasons.length
  records : run.context.baselines.length = start.context.baselines.length

theorem Progress.step {start before after : Run σ R} {visited : Nat}
    (h : Progress bench geometry start visited before)
    (hturn : TakesTurn bench geometry visited before after) :
    Progress bench geometry start (visited + 1) after where
  turns := by
    obtain ⟨links, hstart, hbefore, hturns⟩ := h.turns
    have hspec : before.context.spec = start.context.spec := by
      rw [h.context]
    refine ⟨fun i ↦ if i ≤ visited then links i else after.link, hstart,
      if_neg (Nat.not_succ_le_self visited), fun channel hlt ↦ ?_⟩
    dsimp only
    rw [if_pos (Nat.le_of_lt_succ hlt)]
    rcases Nat.lt_or_eq_of_le (Nat.le_of_lt_succ hlt) with hlt | rfl
    · rw [if_pos (Nat.succ_le_of_lt hlt), hturn.reason _ hlt.ne, hturn.baseline _ hlt.ne]
      exact hturns channel hlt
    · rw [if_neg (Nat.not_succ_le_self channel), hbefore, ← hspec]
      exact hturn.turn
  left channel hle hinside := by
    have hne : channel ≠ visited := (Nat.lt_of_succ_le hle).ne'
    have hfresh := h.left channel (Nat.le_of_succ_le hle) hinside
    exact {
      place := hturn.places.symm ▸ hfresh.place
      record := hturn.records.symm ▸ hfresh.record
      reason := (hturn.reason channel hne).trans hfresh.reason
      baseline := (hturn.baseline channel hne).trans hfresh.baseline }
  context := by rw [hturn.context, h.context]
  places := hturn.places.trans h.places
  records := hturn.records.trans h.records

variable [SpreadScalar R]

theorem Turn.inUse_iff {reason : Option MaskReason} {record : BaselineRecord R}
    (h : Turn bench geometry spec channel link link' reason record) :
    reason = none ↔ record.isMeasured = true := by
  cases h with
  | unconnected | failed => simp [BaselineRecord.isMeasured_unmeasured]
  | measured _ _ _ hmeasured => simp [hmeasured]

omit [SpreadScalar R] in
/-- A channel is left in use for the record of a batch that was sent. -/
theorem Turn.exists_batch {record : BaselineRecord R}
    (h : Turn bench geometry spec channel link link' none record) :
    ∃ batch, (∃ state, (bench.frontEnd.acquire
        ⟨spec.key.channel channel, .baseline, bench.sampling.oversampled⟩ state).1 = .ok batch) ∧
      BaselineRecord.ofBatch batch bench.sampling.pruneCutoffMv spec.flavor = some record := by
  cases h with
  | measured _ hacquire hrecord _ =>
    exact ⟨_, (Sampler.exists_sent_of_acquire hacquire).2, hrecord⟩

/-- How the device baseline comes out: it is taken over the channels in use, if there are any. -/
inductive Aggregated (after : Context R) :
    Except (CalibrationError R) (DeviceBaseline R) → Prop
  | taken {device : DeviceBaseline R} (hinUse : after.mask.unmasked ≠ [])
    (hover : device.IsOver (after.mask.unmasked.map after.baseline))
    (hdevice : after.deviceBaseline = some device) : Aggregated after (.ok device)
  | nothing (hinUse : after.mask.unmasked = []) (hdevice : after.deviceBaseline = none) :
    Aggregated after (.error .noData)

/-- Each channel took its turn, and the device baseline is taken over those it left in use. -/
structure SettlesChannels (bench : Bench σ R) (geometry : Geometry) (start : Run σ R)
    (result : Except (CalibrationError R) (DeviceBaseline R)) (after : Run σ R) : Prop where
  turns : ∃ links : Nat → Link σ, links 0 = start.link ∧
    links start.context.spec.channels = after.link ∧
    ∀ channel < start.context.spec.channels, Turn bench geometry start.context.spec channel
      (links channel) (links (channel + 1)) (after.context.mask.reason channel)
      (after.context.baseline channel)
  usesMeasured : after.context.UsesMeasured
  aggregated : Aggregated after.context result
  context : after.context = { start.context with
    mask := after.context.mask
    baselines := after.context.baselines
    deviceBaseline := after.context.deviceBaseline }

theorem Progress.usesMeasured {start run : Run σ R}
    (h : Progress bench geometry start start.context.spec.channels run)
    (hplaces : start.context.mask.reasons.length = start.context.spec.channels)
    (hrecords : start.context.baselines.length = start.context.spec.channels) :
    run.context.UsesMeasured := by
  have hspec : run.context.spec = start.context.spec := by
    rw [h.context]
  obtain ⟨links, _, _, hturns⟩ := h.turns
  refine ⟨?_, ?_, fun channel hinside ↦ ?_⟩
  · rw [Context.Fits, hspec, h.places, hplaces]
  · rw [hspec, h.records, hrecords]
  · rw [← ChannelMask.reason_eq_none_iff]
    exact (hturns channel (hspec ▸ hinside)).inUse_iff

end Baseline

/-! ## A device with gaps -/

namespace Exact

end Exact

namespace Baseline

end Baseline

end ThresholdTrim
