import ThresholdTrim.FrontEnd
import ThresholdTrim.Scalar

/-!
# Linear front-ends

A front-end whose threshold responds exactly linearly to its register, and whose trim response is
linear up to a ceiling per channel and flat beyond. Its noise is a fixed symmetric pattern in which
zeros prevail, so that the median of a batch lies on the level of the model.
-/

namespace ThresholdTrim

open Scalar

/-- Largest count the converter reports. -/
def maxCount : Nat := 4095

structure LinearModel (R : Type) where
  /-- Baseline per channel, in counts. -/
  baselines : List R
  /-- Spread of the noise pattern, in counts. -/
  noiseRms : R
  /-- Threshold at register value 0 and mid trim. -/
  intercept : R
  /-- Counts per register step. -/
  slope : R
  /-- Factor on the slope per channel; 0 pins the threshold of a channel. -/
  dacGain : List R
  /-- Offset of the threshold per channel. -/
  offsets : List R
  /-- Counts per trim step. -/
  trimGain : R
  trimMid : Nat
  /-- Trim above which the response stays flat, per channel. -/
  saturation : List Nat
  /-- Channels that always fail. -/
  failing : List Nat

namespace LinearModel

variable {R : Type} [Scalar R]

/-- Noise repeated over every batch, in tenths of its spread. -/
def noiseCycle : List R :=
  let z : R := ofCount 0
  [z, z, ofCount 20, -ofCount 20, ofCount 10, -ofCount 10, z, z, z, z]

/-- A number of equal channels. -/
def uniform (channels : Nat) (baseline noiseRms : R) : LinearModel R where
  baselines := List.replicate channels baseline
  noiseRms
  intercept := ofCount 50
  slope := fraction 5 2
  dacGain := List.replicate channels (ofCount 1)
  offsets := List.replicate channels (ofCount 0)
  trimGain := ofCount 4
  trimMid := 14
  saturation := List.replicate channels 31
  failing := []

/-- Level of a channel before noise. A channel beyond the device has no gain or offset of its own
and never saturates. -/
def level (model : LinearModel R) (channel : Nat) : Setting → R
  | .baseline => model.baselines[channel]?.getD (ofCount 0)
  | .threshold dac trim =>
    let ceiling := model.saturation[channel]?.getD 255
    model.intercept + model.slope * model.dacGain[channel]?.getD (ofCount 1) * ofCount dac
      + model.offsets[channel]?.getD (ofCount 0)
      + model.trimGain * (ofCount (min trim ceiling) - ofCount model.trimMid)

/-- A value as the converter reports it. -/
def convert (x : R) : Nat := toNat (clampTo maxCount (round x))

/-- The sample at position `i` of a batch at a level. -/
def sample (model : LinearModel R) (level : R) (i : Nat) : Nat :=
  let scale := model.noiseRms / ofCount 10
  convert (level + (noiseCycle : List R)[i % 10]?.getD (ofCount 0) * scale)

def acquire (model : LinearModel R) (request : Request) : Except FrontEndError (List Nat) :=
  let channel := request.channel.channel
  if model.failing.contains channel then
    .error (.worded ("channel " ++ toString channel ++ " does not answer"))
  else
    let level := model.level channel request.setting
    .ok ((List.range request.count).map (model.sample level))

end LinearModel

end ThresholdTrim
