import ThresholdTrim.Stage

/-!
# Channel classification

Measured channels are held against the device median. Hot channels are taken out of use; channels
suspected dead and noisy channels are counted and reported, no more. Shares are taken over the
measured channels.
-/

namespace ThresholdTrim

open Scalar

variable {σ R : Type} [Scalar R]

/-- Noise of a channel within the cutoff. -/
def isQuiet (rms : R) (flavor : Flavor) (cutoffMv : R) : Bool :=
  le (flavor.toMillivolts rms) cutoffMv

/-- What the classifier thinks of one channel. -/
structure ChannelClass where
  hot : Bool
  dead : Bool
  noisy : Bool
  deriving DecidableEq

def ChannelClass.of (median rms deviceMedian : R) (flavor : Flavor)
    (settings : ClassifierSettings R) : ChannelClass where
  hot := lt (deviceMedian * settings.hotFactor) median
  dead := lt median (deviceMedian * settings.deadFactor)
  noisy := !isQuiet rms flavor settings.rmsCutoffMv

namespace Classification

/-- The counts with one more channel. -/
def count (found : Classification) (c : ChannelClass) : Classification :=
  { found with
    measured := found.measured + 1
    hot := found.hot + c.hot.toNat
    dead := found.dead + c.dead.toNat
    noisy := found.noisy + c.noisy.toNat }

/-- Share of the measured channels. -/
def share (found : Classification) (channels : Nat) : R :=
  ofCount channels / ofCount found.measured

/-- The verdict on the device, from the counts; none without measured channels. -/
def judge (found : Classification) (settings : ClassifierSettings R) : Classification :=
  if found.measured = 0 then found
  else
    let bad : R := found.share (found.hot + found.dead)
    let noisy : R := found.share found.noisy
    { found with
      degraded := le settings.warnRatio bad
      suspect := le settings.severeRatio bad
      samplingSuspect := le settings.severeRatio noisy }

end Classification

/-- Classifies one channel; one without a measured baseline is left alone. -/
def classifyOne (settings : ClassifierSettings R) (deviceMedian : R) (found : Classification)
    (channel : Nat) : Stage σ R Classification := do
  let context ← Stage.context
  let b := context.baseline channel
  if !b.isMeasured then return found
  let c := ChannelClass.of b.median b.rms deviceMedian context.spec.flavor settings
  if c.hot then
    Stage.note .hotChannel
    Stage.mask channel .hot
  if c.dead then Stage.note .deadChannel
  return found.count c

/-- Classifies every measured channel against the device baseline. Without a device baseline
there is nothing to say, and nothing is entered. -/
def classify (settings : ClassifierSettings R) : Stage σ R Classification := do
  let context ← Stage.context
  match context.deviceBaseline with
  | none => return {}
  | some device =>
    let found ← (List.range context.spec.channels).foldlM (classifyOne settings device.median) {}
    let verdict := found.judge settings
    if verdict.suspect then Stage.note .suspectDevice
    else if verdict.degraded then Stage.note .degradedDevice
    if verdict.samplingSuspect then Stage.note .noisyDevice
    Stage.update fun context ↦ { context with classification := some verdict }
    return verdict

end ThresholdTrim
