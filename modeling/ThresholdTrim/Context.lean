import ThresholdTrim.Mask
import ThresholdTrim.Settings
import ThresholdTrim.FrontEnd
import ThresholdTrim.Statistics

/-!
# What is known about a device

A context is created for one run over one device and filled in stage by stage. Records are lists
indexed by channel, levels are in counts. The registers of the device are a view of the context:
whatever the stages wrote, `registers` says what would be programmed now.
-/

namespace ThresholdTrim

open Scalar

/-- Baseline of one channel, in counts. A channel without one has a negative spread. -/
structure BaselineRecord (R : Type) where
  median : R
  rms : R
  /-- Samples dropped as strays. -/
  pruned : Nat

namespace BaselineRecord

variable {R : Type} [Scalar R]

/-- Record of a channel that was not, or could not be, sampled. -/
def unmeasured : BaselineRecord R := ⟨ofCount 0, -ofCount 1, 0⟩

def isMeasured (record : BaselineRecord R) : Bool := le (ofCount 0) record.rms

end BaselineRecord

/-- Aggregate over the measured channels of a device. -/
structure DeviceBaseline (R : Type) where
  /-- Median of the channel medians. -/
  median : R
  /-- Mean of the channel medians. -/
  mean : R
  /-- Median of the channel spreads. -/
  rms : R
  channels : Nat

/-- Aggregate over the measured records, none when there are none. -/
def DeviceBaseline.ofRecords {R : Type} [Scalar R] (records : List (BaselineRecord R)) :
    Option (DeviceBaseline R) := do
  let measured := records.filter BaselineRecord.isMeasured
  let medians := measured.map BaselineRecord.median
  let median ← Statistics.scalarMedian medians
  let rms ← Statistics.scalarMedian (measured.map BaselineRecord.rms)
  return ⟨median, Statistics.mean medians, rms, measured.length⟩

/-- What the classifier found on a device. -/
structure Classification where
  measured : Nat := 0
  hot : Nat := 0
  dead : Nat := 0
  noisy : Nat := 0
  /-- Hot and dead channels reached the warning share. -/
  degraded : Bool := false
  /-- Hot and dead channels reached the severe share. -/
  suspect : Bool := false
  /-- Noisy channels reached the severe share; the baselines may mean nothing. -/
  samplingSuspect : Bool := false
  deriving DecidableEq

/-- Resolved threshold of a device. -/
structure ThresholdConstants (R : Type) where
  /-- Fitted response, counts per register step. -/
  slope : R
  /-- Fitted response at register value 0. -/
  intercept : R
  dac : Nat
  /-- Level the register was solved for. -/
  target : R
  /-- Level read on the probe channel at `dac` and mid trim. -/
  realized : R

/-- Effective thresholds at mid trim. -/
structure MidTrim (R : Type) where
  /-- Per channel, none where it was not measured. -/
  channelEff : List (Option R)
  /-- Median over the measured channels. -/
  deviceEff : R

/-- Trim decision for one channel. -/
structure TrimResult (R : Type) where
  /-- Counts per trim step, signed; 0 when the response is not usable. -/
  slope : R
  /-- Highest trim inside the linear region; 0 when the response is not usable. -/
  trimMax : Nat
  bestTrim : Nat
  /-- Level at the best trim less the channel's baseline. -/
  eff : R
  /-- Level at the best trim. -/
  median : R

def TrimResult.isUsable {R : Type} [Scalar R] (trim : TrimResult R) : Bool :=
  decide (0 < trim.trimMax) && lt (ofCount 0) (abs trim.slope)

inductive Status (R : Type)
  | pending
  | resolved
  /-- The device was given up on; every channel is masked. -/
  | masked (cause : CalibrationError R)

/-- Everything learned about one device. -/
structure Context (R : Type) where
  spec : DeviceSpec
  /-- Largest value of the threshold register. -/
  thdacMax : Nat
  /-- Trim of a channel nothing better is known for. -/
  trimMid : Nat
  baselines : List (BaselineRecord R)
  deviceBaseline : Option (DeviceBaseline R)
  mask : ChannelMask
  classification : Option Classification
  threshold : Option (ThresholdConstants R)
  mid : Option (MidTrim R)
  trims : List (Option (TrimResult R))
  /-- Whether the trims were run again at a raised threshold register. -/
  secondPass : Bool
  status : Status R

namespace Context

variable {R : Type} [Scalar R]

/-- A device nothing is known about yet. -/
def new (spec : DeviceSpec) (thdacMax trimMid : Nat) : Context R where
  spec
  thdacMax
  trimMid
  baselines := List.replicate spec.channels .unmeasured
  deviceBaseline := none
  mask := ChannelMask.new spec.channels
  classification := none
  threshold := none
  mid := none
  trims := List.replicate spec.channels none
  secondPass := false
  status := .pending

def channelKey (context : Context R) (channel : Nat) : ChannelKey :=
  context.spec.key.channel channel

def baseline (context : Context R) (channel : Nat) : BaselineRecord R :=
  context.baselines[channel]?.getD .unmeasured

def trim (context : Context R) (channel : Nat) : Option (TrimResult R) :=
  context.trims[channel]?.join

def isFailed (context : Context R) : Bool :=
  match context.status with
  | .masked _ => true
  | _ => false

def isResolved (context : Context R) : Bool :=
  match context.status with
  | .resolved => true
  | _ => false

/-- Gives up on the device: every channel is masked and the partial solution dropped. -/
def fail (context : Context R) (cause : CalibrationError R) : Context R :=
  { context with
    mask := context.mask.maskAll .deviceFailed
    threshold := none
    trims := context.trims.map fun _ ↦ none
    status := .masked cause }

/-! ## Registers -/

/-- Threshold register to program: the resolved value, or the largest one. -/
def thresholdDac (context : Context R) : Nat :=
  match context.threshold with
  | some constants => constants.dac
  | none => context.thdacMax

/-- Trim to program: 0 for a masked channel, mid where no trim was chosen. -/
def channelTrim (context : Context R) (channel : Nat) : Nat :=
  if context.mask.isMasked channel then 0
  else match context.trim channel with
    | some trim => trim.bestTrim
    | none => context.trimMid

def registers (context : Context R) : RegisterMap where
  thresholdDac := context.thresholdDac
  channelTrim := (List.range context.spec.channels).map context.channelTrim
  channelMask := context.mask.flags

end Context

end ThresholdTrim
