import ThresholdTrim.Stage

/-!
# The threshold register

The comparator threshold follows its register along a line. The line is probed at a handful of
guess points on one channel, and inverted at the level the device should be set to. The fitted line
proposes a register value; the hardware has the last word. A candidate counts once a reading at it
lies at or above the baseline and close enough to the target.

With the register solved, every channel is read at mid trim. Its effective threshold is the level
less its own baseline. If the device as a whole sits below the smallest margin, the register is
raised, once, and everything that was read at the old value is read again.
-/

namespace ThresholdTrim.Threshold

open Scalar Statistics

variable {σ R : Type} [Scalar R]

/-! ## The response -/

/-- Level to aim for, in millivolts: a number of noise widths plus headroom above the baseline
where channels can be trimmed, a fixed offset where they cannot. -/
def targetMv (device : DeviceBaseline R) (flavor : Flavor) (settings : ThresholdSettings R) : R :=
  let baselineMv := flavor.toMillivolts device.median
  if flavor.hasTrimmers then
    settings.rmsFactor * flavor.toMillivolts device.rms + baselineMv + settings.trimOffsetMv
  else
    baselineMv + settings.fixedOffsetMv

/-- Register value at which the line reaches the target, to the nearest step. -/
def invertTarget (line : Line R) (target : R) (thdacMax : Nat) :
    Except (CalibrationError R) Nat :=
  let x := round (line.invert target)
  if !isFinite x then .error (.degenerateFit .flat)
  else if lt x (ofCount 0) || lt (ofCount thdacMax) x then .error (.dacOutOfRange (truncate x))
  else .ok (toNat x)

/-- Reads one guess point; one that cannot be read is skipped. -/
def probeGuess (bench : Bench σ R) (settings : ThresholdSettings R) (probe dac : Nat) :
    Stage σ R (Option (R × R)) := do
  let context ← Stage.context
  let level := Sampler.prunedMeanLevel bench (context.channelKey probe)
    (.threshold dac context.trimMid) settings.guessMarginMv context.spec.flavor
  match ← Stage.attempt (.sample level) with
  | .ok level => return some (ofCount dac, level)
  | .error _ => do
    Stage.note .guessPointSkipped
    return none

/-- Line through the readings of the guess points on channel `probe`, with a slope in the
admissible band. -/
def fitResponse (bench : Bench σ R) (settings : ThresholdSettings R) (probe : Nat) :
    Stage σ R (Line R) := do
  let readings ← settings.guessPoints.mapM (probeGuess bench settings probe)
  let points := readings.filterMap id
  match Line.fit (points.map (·.1)) (points.map (·.2)) with
  | .error fault => throw (.degenerateFit fault)
  | .ok line =>
    if within settings.slopeMin settings.slopeMax line.slope then return line
    else throw (.slopeOutOfBand line.slope settings.slopeMin settings.slopeMax)

/-! ## Solving for the register -/

/-- A fit, repeated once after a pause when the slope came out of the band. -/
def fitWithRefit (bench : Bench σ R) (settings : ThresholdSettings R) (probe : Nat) :
    Stage σ R (Line R) := do
  match ← Stage.attempt (fitResponse bench settings probe) with
  | .ok line => return line
  | .error (.slopeOutOfBand _ _ _) => do
    Stage.note .refitting
    Stage.sample (Sampler.pause bench)
    fitResponse bench settings probe
  | .error cause => throw cause

/-- Whether a level will do, and why not. -/
def checkRealized (flavor : Flavor) (tolerance baselineMv targetMv realized : R) :
    Except (CalibrationError R) R :=
  let realizedMv := flavor.toMillivolts realized
  if lt realizedMv baselineMv then .error (.belowBaseline realizedMv baselineMv)
  else if lt tolerance (abs ((realizedMv - targetMv) / targetMv)) then
    .error (.deviation realizedMv targetMv tolerance)
  else .ok realized

/-- Reads the candidate and checks the level. -/
def tryCandidate (bench : Bench σ R) (settings : ThresholdSettings R) (probe dac : Nat)
    (baselineMv targetMv : R) : Stage σ R R := do
  let context ← Stage.context
  let realized ← Stage.sample (Sampler.prunedMeanLevel bench (context.channelKey probe)
    (.threshold dac context.trimMid) settings.guessMarginMv context.spec.flavor)
  match checkRealized context.spec.flavor settings.deviationTolerance baselineMv targetMv
      realized with
  | .ok realized => return realized
  | .error cause => throw cause

/-- Verifies the candidate, at most `further` times after the first, with pauses between. Fails
with the last failure. -/
def verify (bench : Bench σ R) (settings : ThresholdSettings R) (probe dac : Nat)
    (baselineMv targetMv : R) : Nat → Stage σ R R
  | 0 => do
    match ← Stage.attempt (tryCandidate bench settings probe dac baselineMv targetMv) with
    | .ok realized => return realized
    | .error cause => do
      Stage.note .candidateRejected
      throw cause
  | further + 1 => do
    match ← Stage.attempt (tryCandidate bench settings probe dac baselineMv targetMv) with
    | .ok realized => return realized
    | .error _ => do
      Stage.note .candidateRejected
      Stage.sample (Sampler.pause bench)
      verify bench settings probe dac baselineMv targetMv further

/-- Solves for the threshold register on the first channel in use. -/
def solve (bench : Bench σ R) (settings : ThresholdSettings R) :
    Stage σ R (ThresholdConstants R) := do
  let context ← Stage.context
  let device ← Stage.need context.deviceBaseline
  let probe ← Stage.need context.mask.unmasked.head?
  let flavor := context.spec.flavor
  let goalMv := targetMv device flavor settings
  let target := flavor.toCounts goalMv
  let line ← fitWithRefit bench settings probe
  match invertTarget line target settings.thdacMax with
  | .error cause => throw cause
  | .ok dac =>
    let realized ← verify bench settings probe dac (flavor.toMillivolts device.median) goalMv
      (bench.sampling.attempts - 1)
    return ⟨line.slope, line.intercept, dac, target, realized⟩

/-! ## The margin at mid trim -/

/-- Level of the first channel in use at `dac` and mid trim. -/
def measureRealized (bench : Bench σ R) (dac : Nat) : Stage σ R R := do
  let context ← Stage.context
  let probe ← Stage.need context.mask.unmasked.head?
  Stage.sample (Sampler.medianLevel bench (context.channelKey probe)
    (.threshold dac context.trimMid))

/-- Effective threshold of one channel at mid trim, none for a channel out of use. A channel that
cannot be read is masked. -/
def midEff (bench : Bench σ R) (dac channel : Nat) : Stage σ R (Option R) := do
  let context ← Stage.context
  if context.mask.isMasked channel then return none
  let level := Sampler.medianLevel bench (context.channelKey channel)
    (.threshold dac context.trimMid)
  match ← Stage.attempt (.sample level) with
  | .ok level => return some (level - (context.baseline channel).median)
  | .error _ => do
    Stage.note .noMidTrim
    Stage.mask channel .noData
    return none

/-- Effective thresholds at mid trim. Fails when no channel answers. -/
def measureMid (bench : Bench σ R) (dac : Nat) : Stage σ R (MidTrim R) := do
  let channelEff ← (List.range (← Stage.context).spec.channels).mapM (midEff bench dac)
  let deviceEff ← Stage.need (scalarMedian (channelEff.filterMap id))
  return ⟨channelEff, deviceEff⟩

/-- Register value one noise width higher, by one step at least, within the register. -/
def raisedForMargin (constants : ThresholdConstants R) (device : DeviceBaseline R)
    (thdacMax : Nat) : Nat :=
  let bump := larger (round (device.rms / constants.slope)) (ofCount 1)
  toNat (smaller (ofCount constants.dac + bump) (ofCount thdacMax))

/-- Reads the device at mid trim and raises the register once when the margin is missed. -/
def recheckMargin (bench : Bench σ R) (settings : ThresholdSettings R) :
    Stage σ R (MidTrim R) := do
  let context ← Stage.context
  let constants ← Stage.need context.threshold
  let device ← Stage.need context.deviceBaseline
  let margin := context.spec.flavor.toCounts settings.minMarginMv
  let first ← measureMid bench constants.dac
  let mid ←
    if lt first.deviceEff margin then do
      Stage.note .raisingForMargin
      let dac := raisedForMargin constants device settings.thdacMax
      let second ← measureMid bench dac
      let realized ← measureRealized bench dac
      Stage.update fun context ↦
        { context with threshold := some { constants with dac, realized } }
      if lt second.deviceEff margin then Stage.note .marginStillMissed
      pure second
    else pure first
  Stage.update fun context ↦ { context with mid := some mid }
  return mid

end ThresholdTrim.Threshold
