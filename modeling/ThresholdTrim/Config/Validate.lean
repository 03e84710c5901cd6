import ThresholdTrim.Config
import ThresholdTrim.Text
import ThresholdTrim.Text.Quoted

/-!
# Valid configurations

A configuration is checked as a whole before any device is touched, section by section, and the
first fault counts. A comparison is asked to hold, so that a not-a-number fails it; a factor that
must not be negative is judged by its sign.
-/

namespace ThresholdTrim

/-- Why a configuration makes no sense. -/
inductive ConfigFault
  | noJobs
  | noSamples
  | noOversampling
  | pruneCutoff
  | noAttempts
  | longRetryDelay
  | hotFactor
  | deadFactor
  | rmsCutoff
  | rmsFactor
  | fewGuessPoints
  | highGuessPoint
  | equalGuessPoints
  | slopeBand
  | deviationTolerance
  | guessMargin
  | noThresholdRange
  | trimOrder
  | trimRange
  | slopeTolerance
  | bumpCutoff
  | unusableWarnRatio
  | unnamedBoard
  | noDevices (board : String)
  | noChannels (board : String)
  | invertedRule (pattern : String)
  | failureRate
  | outlierRate
  deriving DecidableEq

def ConfigFault.message : ConfigFault → String
  | .noJobs => "run.jobs must be >= 1"
  | .noSamples => "sampling.sample_count must be >= 1"
  | .noOversampling => "sampling.oversampling must be >= 1"
  | .pruneCutoff => "sampling.prune_cutoff_mv must be > 0"
  | .noAttempts => "sampling.max_attempts must be >= 1"
  | .longRetryDelay => "sampling.retry_delay_ms is unreasonably large (>60s)"
  | .hotFactor => "classifier.hot_factor must be > 1.0"
  | .deadFactor => "classifier.dead_factor must be in (0.0, 1.0)"
  | .rmsCutoff => "classifier.rms_cutoff_mv must be > 0"
  | .rmsFactor => "threshold.rms_factor must be >= 0"
  | .fewGuessPoints => "threshold.guess_points needs at least two DAC values"
  | .highGuessPoint => "threshold.guess_points must not exceed threshold.thdac_max"
  | .equalGuessPoints => "threshold.guess_points must be distinct"
  | .slopeBand => "threshold.slope_min must be > 0 and below threshold.slope_max"
  | .deviationTolerance => "threshold.deviation_tolerance must be in (0.0, 1.0]"
  | .guessMargin => "threshold.guess_margin_mv must be > 0"
  | .noThresholdRange => "threshold.thdac_max must be >= 1"
  | .trimOrder => "trim points must satisfy low < mid < high"
  | .trimRange => "trim.high must not exceed trim.trim_max"
  | .slopeTolerance => "trim.slope_tolerance must be >= 0"
  | .bumpCutoff => "trim.bump_cutoff_mv must be > 0"
  | .unusableWarnRatio => "trim.unusable_warn_ratio must be in [0.0, 1.0]"
  | .unnamedBoard => "devices: name must not be empty"
  | .noDevices board => "device " ++ board ++ ": vmms must not be empty"
  | .noChannels board => "device " ++ board ++ ": channels must be >= 1"
  | .invertedRule pattern =>
    "geometry rule " ++ Text.quoted pattern ++ ": first must be <= last"
  | .failureRate => "simulation.failure_rate must be in [0.0, 1.0]"
  | .outlierRate => "simulation.outlier_rate must be in [0.0, 1.0]"

namespace Config

open Scalar

variable {R : Type} [Scalar R]

/-- Longest pause before a retry, in milliseconds. -/
def maxRetryDelayMs : Nat := 60000

/-- Fails with `fault` unless the condition holds. -/
private def demand (fault : ConfigFault) (condition : Bool) : Except ConfigFault Unit :=
  if condition then .ok () else .error fault

private def isPositive (x : R) : Bool := lt (ofCount 0) x

private def isShare (x : R) : Bool := within (ofCount 0) (ofCount 1) x

def validateSampling (s : SamplingSettings R) : Except ConfigFault Unit := do
  demand .noSamples (s.sampleCount != 0)
  demand .noOversampling (s.oversampling != 0)
  demand .pruneCutoff (isPositive s.pruneCutoffMv)
  demand .noAttempts (s.maxAttempts != 0)
  demand .longRetryDelay (decide (s.retryDelayMs ≤ maxRetryDelayMs))

def validateClassifier (c : ClassifierLimits R) : Except ConfigFault Unit := do
  demand .hotFactor (lt (ofCount 1) c.hotFactor)
  demand .deadFactor (isPositive c.deadFactor && lt c.deadFactor (ofCount 1))
  demand .rmsCutoff (isPositive c.rmsCutoffMv)

def validateThreshold (th : ThresholdSettings R) (minus : MinusSigns) :
    Except ConfigFault Unit := do
  demand .rmsFactor (!(minus.rmsFactor || isNegative th.rmsFactor))
  demand .fewGuessPoints (decide (2 ≤ th.guessPoints.length))
  demand .highGuessPoint (th.guessPoints.all (· ≤ th.thdacMax))
  demand .equalGuessPoints (decide th.guessPoints.Nodup)
  demand .slopeBand (isPositive th.slopeMin && lt th.slopeMin th.slopeMax)
  demand .deviationTolerance
    (isPositive th.deviationTolerance && le th.deviationTolerance (ofCount 1))
  demand .guessMargin (isPositive th.guessMarginMv)
  demand .noThresholdRange (th.thdacMax != 0)

def validateTrim (t : TrimSettings R) (minus : MinusSigns) : Except ConfigFault Unit := do
  demand .trimOrder (decide (t.low < t.mid ∧ t.mid < t.high))
  demand .trimRange (decide (t.high ≤ t.trimMax))
  demand .slopeTolerance (!(minus.slopeTolerance || isNegative t.slopeTolerance))
  demand .bumpCutoff (isPositive t.bumpCutoffMv)
  demand .unusableWarnRatio (isShare t.unusableWarnRatio)

def validateBoard (board : BoardEntry) : Except ConfigFault Unit := do
  demand .unnamedBoard (board.name.toList.any fun c ↦ !Text.isBlank c)
  demand (.noDevices board.name) (!board.vmms.isEmpty)
  demand (.noChannels board.name) (board.channels != 0)

def validateRule (rule : UnconnectedRule) : Except ConfigFault Unit :=
  demand (.invertedRule rule.pattern) (decide (rule.first ≤ rule.last))

def validateSimulation (params : SimulationParams) : Except ConfigFault Unit := do
  demand .failureRate (isShare params.failureRate)
  demand .outlierRate (isShare params.outlierRate)

/-- The first fault of a configuration, if it has one. -/
def validate (config : Config R) : Except ConfigFault Unit := do
  demand .noJobs (config.run.jobs != 0)
  validateSampling config.sampling
  validateClassifier config.classifier
  validateThreshold config.threshold config.minus
  validateTrim config.trim config.minus
  config.boards.forM validateBoard
  config.geometry.forM validateRule
  validateSimulation config.simulation

end Config

end ThresholdTrim
