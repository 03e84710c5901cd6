import ThresholdTrim.Decimal
import ThresholdTrim.Statistics

/-!
# Causes of failure

Three layers can fail: a step of a calibration, the preparation of one, and a run over many
devices. Each has its own causes, and every cause its wording.
-/

namespace ThresholdTrim

/-- A failure of the hardware as the stages tell it apart. -/
inductive HardwareFault
  | timeout
  | reported (text : String)
  deriving DecidableEq

def HardwareFault.message : HardwareFault → String
  | .timeout => "timeout waiting for front-end"
  | .reported text => "hardware error: " ++ text

/-- Why one step of a calibration failed. A failed step masks a channel or a device; it never
ends the run. -/
inductive CalibrationError (R : Type)
  /-- Every attempt to sample a channel failed; `reason` words the last failure. -/
  | sampling (channel : ChannelKey) (attempts : Nat) (reason : String)
  | hardware (fault : HardwareFault)
  | slopeOutOfBand (slope min max : R)
  | degenerateFit (fault : FitFault)
  | dacOutOfRange (dac : Int)
  | belowBaseline (realizedMv baselineMv : R)
  | deviation (realizedMv targetMv tolerance : R)
  | noData
  deriving DecidableEq

/-- Settings no device can be calibrated with. -/
inductive SettingsFault
  | sampleCounts
  | pruneCutoff
  | maxAttempts
  | guessPointCount
  | guessPointRange
  | slopeBand
  | deviationTolerance
  | trimPoints
  deriving DecidableEq

def SettingsFault.message : SettingsFault → String
  | .sampleCounts => "sample counts must be >= 1"
  | .pruneCutoff => "prune cutoff must be > 0"
  | .maxAttempts => "max_attempts must be >= 1"
  | .guessPointCount => "need at least two guess points"
  | .guessPointRange => "guess point above thdac_max"
  | .slopeBand => "slope band must satisfy 0 < min < max"
  | .deviationTolerance => "deviation tolerance must be > 0"
  | .trimPoints => "trim points must satisfy low < mid < high <= trim_max"

/-- What makes a calibration impossible before any channel is sampled. -/
inductive SetupError
  | missingFrontEnd
  | missingDevice
  | noDevices
  | noChannels (device : String)
  | invalidSettings (fault : SettingsFault)
  deriving DecidableEq

def SetupError.message : SetupError → String
  | .missingFrontEnd => "missing acquirer"
  | .missingDevice => "missing device"
  | .noDevices => "no devices to calibrate"
  | .noChannels device => "device " ++ device ++ " has zero channels"
  | .invalidSettings fault => "invalid config: " ++ fault.message

/-- Outcome of a run over many devices that counts as a failure of the run. -/
inductive RunError
  | interrupted (completed total : Nat)
  | allDevicesFailed (devices : Nat)
  deriving DecidableEq

def RunError.message : RunError → String
  | .interrupted completed total =>
    "interrupted: " ++ toString completed ++ " of " ++ toString total ++ " devices calibrated"
  | .allDevicesFailed devices =>
    "no device could be calibrated (" ++ toString devices ++ " attempted)"

/-! ## Wording of failed steps

Levels are worded to a tenth of a millivolt and slopes to a thousandth of a count; limits from the
settings are worded as they were written. -/

open Decimal

private def plain (x : Float) : String := inSentences.text x

def CalibrationError.message : CalibrationError Float → String
  | .sampling channel attempts reason =>
    "sampling " ++ channel.text ++ " failed after " ++ toString attempts ++ " attempts: " ++ reason
  | .hardware fault => fault.message
  | .slopeOutOfBand slope min max =>
    "fitted threshold slope " ++ fixed 3 slope ++ " outside [" ++ plain min ++ ", " ++ plain max
      ++ "] counts/DAC"
  | .degenerateFit fault => "degenerate fit: " ++ fault.message
  | .dacOutOfRange dac => "threshold DAC " ++ toString dac ++ " outside register range"
  | .belowBaseline realizedMv baselineMv =>
    "realized threshold " ++ fixed 1 realizedMv ++ " mV below baseline " ++ fixed 1 baselineMv
      ++ " mV"
  | .deviation realizedMv targetMv tolerance =>
    "realized threshold " ++ fixed 1 realizedMv ++ " mV deviates from target " ++ fixed 1 targetMv
      ++ " mV by more than " ++ plain tolerance
  | .noData => "no usable samples"

end ThresholdTrim
