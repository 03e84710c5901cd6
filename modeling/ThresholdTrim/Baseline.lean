import ThresholdTrim.Geometry
import ThresholdTrim.Stage

/-!
# Baselines

The baseline of a channel is its resting level. Each connected channel is sampled once, with an
oversampled batch; strays are dropped around the raw median before the final median and spread are
taken. The device baseline aggregates the channels that were measured, and them alone.
-/

namespace ThresholdTrim

open Scalar Statistics

variable {σ R : Type} [Scalar R]

/-- Record of one raw batch, none for an empty one. -/
def BaselineRecord.ofBatch (samples : List Nat) (cutoffMv : R) (flavor : Flavor) :
    Option (BaselineRecord R) := do
  let raw ← Statistics.median samples
  let kept := prune samples (ofCount raw) cutoffMv flavor
  let summary ← summarize kept
  return ⟨summary.median, summary.rms, samples.length - kept.length⟩

namespace Baseline

/-- Samples a connected channel: its record is entered, or the channel masked. -/
def measure (bench : Bench σ R) (channel : Nat) : Stage σ R Unit := do
  let context ← Stage.context
  let request := ⟨context.channelKey channel, .baseline, bench.sampling.oversampled⟩
  let record ← match ← Stage.attempt (.sample (Sampler.acquire bench request)) with
    | .ok batch =>
      pure (BaselineRecord.ofBatch batch bench.sampling.pruneCutoffMv context.spec.flavor)
    | .error _ => do
      Stage.note .noBaseline
      pure none
  match record with
  | some record =>
    Stage.update fun context ↦ { context with baselines := context.baselines.set channel record }
  | none => Stage.mask channel .noData

/-- Visits one channel: without a sensor it is masked and not sampled. -/
def visit (bench : Bench σ R) (geometry : Geometry) (channel : Nat) : Stage σ R Unit := do
  if geometry.isUnconnected ((← Stage.context).channelKey channel) then
    Stage.mask channel .unconnected
  else
    measure bench channel

/-- Samples every connected channel and aggregates the device baseline. Fails when not one
channel was measured. -/
def sampleAll (bench : Bench σ R) (geometry : Geometry) : Stage σ R (DeviceBaseline R) := do
  (List.range (← Stage.context).spec.channels).forM (visit bench geometry)
  let device ← Stage.need (DeviceBaseline.ofRecords (← Stage.context).baselines)
  Stage.update fun context ↦ { context with deviceBaseline := some device }
  return device

end Baseline

end ThresholdTrim
