import ThresholdTrim.FrontEnd.Linear
import ThresholdTrim.Decimal

/-!
# Simulated front-ends

A model of a multi-channel device. Every channel has a baseline, a noise level, a threshold offset
and a trim response that is linear up to a saturation point, drawn from the seed of the device.
Calls can fail and samples can be strays, at given rates.

Every simulated device draws its channels from a seed of its own: the name of its board and its
index are folded into one word, byte by byte, and combined with the seed of the run. The arithmetic
is that of 64-bit words. What is drawn from a seed is up to the generator, of which nothing is
assumed here; the program has one.
-/

namespace ThresholdTrim

/-! ## Seeds -/

namespace Seed

/-- Word of an empty name. -/
def offsetBasis : UInt64 := 0xcbf29ce484222325

/-- An odd multiplier, so that no step loses information. -/
def multiplier : UInt64 := 0x100000001b3

/-- Folds one byte into a word. -/
def step (word : UInt64) (byte : UInt8) : UInt64 := (word ^^^ byte.toUInt64) * multiplier

def hash (bytes : List UInt8) : UInt64 := bytes.foldl step offsetBasis

/-- Bytes a device is told apart by. -/
def deviceBytes (key : DeviceKey) : List UInt8 := key.board.toUTF8.toList ++ [key.vmm]

/-- Seed of a device in a run. -/
def ofDevice (base : UInt64) (key : DeviceKey) : UInt64 := hash (deviceBytes key) ^^^ base

end Seed

/-! ## Draws -/

/-- A generator of pseudo-random numbers. A draw moves its state on. -/
class Generator where
  State : Type
  /-- State that a seed starts from. -/
  start : UInt64 → State
  /-- Whether an event of the given probability happens. -/
  event : Float → StateM State Bool
  /-- A whole number between two bounds, both included. -/
  between : Nat → Nat → StateM State Nat
  /-- A standard normal deviate. -/
  normal : StateM State Float

/-- Computations that draw numbers. -/
abbrev Draw [Generator] := StateM Generator.State

/-! ## Parameters -/

structure SimulationParams where
  seed : UInt64 := 0x5eed
  channels : Nat := 64
  /-- Mean baseline, in counts. -/
  baseline : Float := 680
  baselineSpread : Float := 8
  /-- Noise of a sample. -/
  noiseRms : Float := 14
  /-- Counts per threshold register step. -/
  thdacSlope : Float := 2.5
  thdacIntercept : Float := 250
  offsetSpread : Float := 12
  /-- Mean trim response, counts per step. -/
  trimGain : Float := 4
  trimGainSpread : Float := 0.4
  /-- Trim the threshold response is centred on. -/
  trimMid : Nat := 14
  /-- Range the saturation points are drawn from. -/
  trimSaturation : Nat × Nat := (22, 31)
  /-- Probability that a call times out. -/
  failureRate : Float := 0
  /-- Probability that a sample is any count. -/
  outlierRate : Float := 0.002
  hotChannels : List Nat := []
  deadChannels : List Nat := []
  noisyChannels : List Nat := []
  /-- Channels that never answer. -/
  silentChannels : List Nat := []

/-- One channel of the model. -/
structure SimulatedChannel where
  baseline : Float
  noise : Float
  offset : Float
  trimGain : Float
  saturation : Nat
  silent : Bool

structure SimulatedModel [Generator] where
  params : SimulationParams
  channels : List SimulatedChannel
  /-- State that the next draw starts from. -/
  draws : Generator.State

/-! ## Building a model -/

variable [Generator]

namespace SimulationParams

/-- A normal draw of the given width; a negative width is none. -/
private def spread (width : Float) : Draw Float :=
  return 0 + Scalar.larger width 0 * (← Generator.normal)

private def drawChannel (params : SimulationParams) (channel : Nat) : Draw SimulatedChannel := do
  let drawn := params.baseline + (← spread params.baselineSpread)
  let hot := if params.hotChannels.contains channel then drawn * 1.3 else drawn
  let baseline := if params.deadChannels.contains channel then hot * 0.5 else hot
  let noise :=
    if params.noisyChannels.contains channel then params.noiseRms * 12 else params.noiseRms
  let offset ← spread params.offsetSpread
  let trimGain := Scalar.larger (params.trimGain + (← spread params.trimGainSpread)) 0.5
  let saturation ← Generator.between params.trimSaturation.1 params.trimSaturation.2
  return {
    baseline, noise, offset, trimGain, saturation
    silent := params.silentChannels.contains channel }

/-- Why there is no such device: a rate that is no probability, an empty saturation range, or a
spread without bounds. -/
private def fault? (params : SimulationParams) : Option String :=
  let text := Decimal.inSentences.text
  let rate (name : String) (p : Float) : Option String :=
    if Scalar.within 0 1 p then none
    else some (name ++ " " ++ text p ++ " outside [0, 1]")
  let width (w : Float) : Option String :=
    if (Scalar.larger w 0).isFinite then none
    else some ("spread " ++ text w
      ++ ": variation parameter is non-finite in (log)normal distribution")
  rate "failure_rate" params.failureRate
    <|> rate "outlier_rate" params.outlierRate
    <|> (if params.trimSaturation.2 < params.trimSaturation.1 then
      some "trim_saturation range is inverted" else none)
    <|> width params.baselineSpread
    <|> width params.offsetSpread
    <|> width params.trimGainSpread

end SimulationParams

namespace SimulatedModel

/-- The model with exactly the given seed. -/
def new (params : SimulationParams) : Except FrontEndError SimulatedModel :=
  match params.fault? with
  | some fault => .error (.invalidModel fault)
  | none =>
    let (channels, draws) :=
      ((List.range params.channels).mapM params.drawChannel).run (Generator.start params.seed)
    .ok ⟨params, channels, draws⟩

/-- The model of one device in a run, with a seed of its own. -/
def forDevice (params : SimulationParams) (key : DeviceKey) :
    Except FrontEndError SimulatedModel :=
  new { params with seed := Seed.ofDevice params.seed key }

/-! ## Sampling -/

private def channelLevel (params : SimulationParams) (c : SimulatedChannel) : Setting → Float
  | .baseline => c.baseline
  | .threshold dac trim =>
    params.thdacIntercept + params.thdacSlope * Float.ofNat dac + c.offset
      + c.trimGain * (Float.ofNat (min trim c.saturation) - Float.ofNat params.trimMid)

/-- Level of a channel before noise, none for a channel beyond the device. -/
def level (model : SimulatedModel) (channel : Nat) (setting : Setting) : Option Float :=
  model.channels[channel]?.map (channelLevel model.params · setting)

private def convert (x : Float) : Nat := if x.isFinite then LinearModel.convert x else 0

private def drawSample (params : SimulationParams) (c : SimulatedChannel) (level : Float) :
    Draw Nat := do
  if ← Generator.event params.outlierRate then Generator.between 0 maxCount
  else return convert (level + c.noise * (← Generator.normal))

def acquire (request : Request) (model : SimulatedModel) :
    Except FrontEndError (List Nat) × SimulatedModel :=
  let channel := request.channel.channel
  match model.channels[channel]? with
  | none => (.error (.noSuchChannel channel), model)
  | some c =>
    if c.silent then (.error (.noResponse channel), model)
    else
      let draw : Draw (Except FrontEndError (List Nat)) := do
        if ← Generator.event model.params.failureRate then return .error .timeout
        let level := channelLevel model.params c request.setting
        return .ok (← (List.replicate request.count ()).mapM fun _ ↦
          drawSample model.params c level)
      let (answer, draws) := draw.run model.draws
      (answer, { model with draws })

end SimulatedModel

end ThresholdTrim
