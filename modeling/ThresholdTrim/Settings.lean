import ThresholdTrim.Error
import ThresholdTrim.Device

/-!
# Settings of a calibration

The knobs of every stage with the values the procedure is tuned for. `Settings.validate` names
the first reason why no device could be calibrated with them.
-/

namespace ThresholdTrim

open Scalar

/-- Largest value of a machine word. -/
def maxWord : Nat := UInt64.size - 1

/-- Batch sizes, pruning and retries of every acquisition. -/
structure SamplingSettings (R : Type) where
  /-- Samples per nominal batch. -/
  sampleCount : Nat
  /-- Baseline and guess-point batches are this many times larger. -/
  oversampling : Nat
  /-- Samples this far from the batch median or further are dropped (mV). -/
  pruneCutoffMv : R
  maxAttempts : Nat
  retryDelayMs : Nat

/-- Size of an oversampled batch: never empty, and saturating at a machine word. -/
def SamplingSettings.oversampled {R : Type} (s : SamplingSettings R) : Nat :=
  max (min (s.sampleCount * s.oversampling) maxWord) 1

/-- Tries per acquisition; there is always one. -/
def SamplingSettings.attempts {R : Type} (s : SamplingSettings R) : Nat := max s.maxAttempts 1

structure ClassifierSettings (R : Type) where
  /-- A baseline above the device median times this is hot. -/
  hotFactor : R
  /-- A baseline below the device median times this is suspected dead. -/
  deadFactor : R
  /-- A baseline spread above this is noisy (mV). -/
  rmsCutoffMv : R
  /-- Share of bad channels that degrades a device. -/
  warnRatio : R
  /-- Share of bad channels that makes a device suspect. -/
  severeRatio : R

structure ThresholdSettings (R : Type) where
  /-- The target lies this many baseline spreads above the baseline. -/
  rmsFactor : R
  /-- Headroom on top of that (mV). -/
  trimOffsetMv : R
  /-- Target above the baseline for boards without trimmers (mV). -/
  fixedOffsetMv : R
  /-- Register values probed for the response. -/
  guessPoints : List Nat
  /-- Pruning margin around the median of a guess point (mV). -/
  guessMarginMv : R
  /-- Admissible slopes of the response, counts per register step. -/
  slopeMin : R
  slopeMax : R
  /-- Relative deviation allowed between the realized threshold and its target. -/
  deviationTolerance : R
  /-- Smallest effective threshold of the device at mid trim (mV). -/
  minMarginMv : R
  /-- Largest value of the threshold register. -/
  thdacMax : Nat

structure TrimSettings (R : Type) where
  low : Nat
  mid : Nat
  high : Nat
  /-- Largest value of the trim register. -/
  trimMax : Nat
  /-- Largest difference between the slopes below and above mid (counts per step). -/
  slopeTolerance : R
  /-- A channel this far below its baseline at its best trim is masked at once (mV). -/
  bumpCutoffMv : R
  /-- Share of channels without a usable trim region that calls for a warning. -/
  unusableWarnRatio : R

structure Settings (R : Type) where
  sampling : SamplingSettings R
  classifier : ClassifierSettings R
  threshold : ThresholdSettings R
  trim : TrimSettings R

/-- Which stages of a calibration run. -/
inductive Mode
  /-- Baselines and channel classification. -/
  | baseline
  /-- Baselines and the threshold register. -/
  | threshold
  /-- All stages, trims included. -/
  | trim
  deriving DecidableEq

/-- Mode that can run on a board: without trimmers a calibration ends at the threshold. -/
def Mode.onBoard (mode : Mode) (flavor : Flavor) : Mode :=
  match mode with
  | .trim => if flavor.hasTrimmers then .trim else .threshold
  | other => other

/-! ## Tuned values -/

namespace Settings

variable {R : Type} [Scalar R]

def defaultSampling : SamplingSettings R where
  sampleCount := 10
  oversampling := 10
  pruneCutoffMv := ofCount 10
  maxAttempts := 3
  retryDelayMs := 100

def defaultClassifier : ClassifierSettings R where
  hotFactor := fraction 11 10
  deadFactor := fraction 9 10
  rmsCutoffMv := ofCount 30
  warnRatio := fraction 1 4
  severeRatio := fraction 1 2

def defaultThreshold : ThresholdSettings R where
  rmsFactor := ofCount 9
  trimOffsetMv := ofCount 5
  fixedOffsetMv := ofCount 50
  guessPoints := [100, 150, 200, 250, 300, 350, 400]
  guessMarginMv := ofCount 10
  slopeMin := fraction 1 2
  slopeMax := ofCount 8
  deviationTolerance := fraction 1 5
  minMarginMv := ofCount 30
  thdacMax := 1023

def defaultTrim : TrimSettings R where
  low := 0
  mid := 14
  high := 31
  trimMax := 31
  slopeTolerance := fraction 3 2
  bumpCutoffMv := ofCount 20
  unusableWarnRatio := fraction 1 4

/-- The values the procedure is tuned for. -/
def tuned : Settings R where
  sampling := defaultSampling
  classifier := defaultClassifier
  threshold := defaultThreshold
  trim := defaultTrim

/-! ## Validation -/

/-- Fails with `fault` unless the condition holds. -/
private def require (fault : SettingsFault) (condition : Bool) : Except SetupError Unit :=
  if condition then .ok () else .error (.invalidSettings fault)

/-- The first reason why `spec` cannot be calibrated with these settings. Comparisons are asked
for, never refused, so that a not-a-number is an invalid value. -/
def validate (spec : DeviceSpec) (settings : Settings R) : Except SetupError Unit := do
  if spec.channels = 0 then throw (.noChannels spec.key.text)
  let s := settings.sampling
  let th := settings.threshold
  let t := settings.trim
  require .sampleCounts (s.sampleCount != 0 && s.oversampling != 0)
  require .pruneCutoff (lt (ofCount 0) s.pruneCutoffMv)
  require .maxAttempts (s.maxAttempts != 0)
  require .guessPointCount (decide (2 ≤ th.guessPoints.length))
  require .guessPointRange (th.guessPoints.all (· ≤ th.thdacMax))
  require .slopeBand (lt (ofCount 0) th.slopeMin && lt th.slopeMin th.slopeMax)
  require .deviationTolerance (lt (ofCount 0) th.deviationTolerance)
  require .trimPoints (decide (t.low < t.mid ∧ t.mid < t.high ∧ t.high ≤ t.trimMax))

end Settings

end ThresholdTrim
