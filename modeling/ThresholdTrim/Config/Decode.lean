import ThresholdTrim.Config
import ThresholdTrim.Config.VmmSpec
import ThresholdTrim.Toml.Parser

/-!
# Reading configurations

A configuration is a TOML document. A section is a table of its fields, or an array of them in
order; fields that are missing have the tuned values, and keys no section knows are passed over.
Whole numbers stand for fractions, never the other way round.
-/

namespace ThresholdTrim

open Toml (Value)

/-- Why a TOML value does not say what a section asks for. -/
inductive DecodeFault
  | missing (field : String)
  | expected (what : String)
  | outOfRange (n : Int)
  | unknownVariant (name : String)
  | vmms (fault : VmmFault)

def DecodeFault.message : DecodeFault → String
  | .missing field => "missing field: " ++ field
  | .expected what => "expected " ++ what
  | .outOfRange n => "number out of range: " ++ toString n
  | .unknownVariant name => "unknown name: " ++ name
  | .vmms fault => fault.message

/-- Why a text is no configuration. -/
inductive ConfigTextFault
  | toml (fault : Toml.Fault)
  | decode (fault : DecodeFault)

def ConfigTextFault.message (text : String) : ConfigTextFault → String
  | .toml fault => fault.message text
  | .decode fault => fault.message

namespace Decode

/-! ## Single values -/

def bool : Value → Except DecodeFault Bool
  | .bool b => .ok b
  | _ => .error (.expected "true or false")

/-- A whole number from zero to `top`. -/
def nat (top : Nat) : Value → Except DecodeFault Nat
  | .int n => if 0 ≤ n ∧ n ≤ top then .ok n.toNat else .error (.outOfRange n)
  | _ => .error (.expected "a whole number")

def byte (value : Value) : Except DecodeFault UInt8 := return UInt8.ofNat (← nat 255 value)

def float : Value → Except DecodeFault Float
  | .float x _ => .ok x
  | .int n => .ok (Float.ofInt n)
  | _ => .error (.expected "a number")

def text : Value → Except DecodeFault String
  | .str s => .ok s
  | _ => .error (.expected "a string")

def list {α : Type} (item : Value → Except DecodeFault α) : Value → Except DecodeFault (List α)
  | .array items => items.mapM item
  | _ => .error (.expected "an array")

/-- One of a number of names: the name itself, or a table whose only member has the name and
nothing to say. -/
def choice {α : Type} (names : List (String × α)) (value : Value) : Except DecodeFault α :=
  let named (name : String) : Except DecodeFault α :=
    match names.lookup name with
    | some a => .ok a
    | none => .error (.unknownVariant name)
  match value with
  | .str s => named s
  | .table [(s, .table [])] | .table [(s, .array [])] => named s
  | _ => .error (.expected "a name")

def mode : Value → Except DecodeFault Mode :=
  choice [("baseline", .baseline), ("threshold", .threshold), ("trim", .trim)]

def side : Value → Except DecodeFault Side := choice [("A", .a), ("C", .c)]

def flavor : Value → Except DecodeFault Flavor :=
  choice [("mmfe8", .mmfe8), ("sfeb", .sfeb), ("pfeb", .pfeb)]

/-- Device indices, one by one or as the text of a list. -/
def vmms : Value → Except DecodeFault (List UInt8)
  | .str s => (VmmSpec.parse s).mapError .vmms
  | value => list byte value

/-! ## Sections -/

/-- Fields of a section. -/
inductive Fields
  | named (members : List (String × Value))
  | inOrder (items : List Value)

/-- Fields of a value. A date has none a section knows. -/
def fields : Value → Except DecodeFault Fields
  | .table members => .ok (.named members)
  | .array items => .ok (.inOrder items)
  | .dateTime => .ok (.named [])
  | _ => .error (.expected "a table")

/-- Field of a name, which is the one at `position`. -/
def Fields.get? (fields : Fields) (position : Nat) (name : String) : Option Value :=
  match fields with
  | .named members => members.lookup name
  | .inOrder items => items[position]?

/-- A field with a value to fall back on. -/
def Fields.optional {α : Type} (fields : Fields) (position : Nat) (name : String) (fallback : α)
    (decode : Value → Except DecodeFault α) : Except DecodeFault α :=
  match fields.get? position name with
  | some value => decode value
  | none => .ok fallback

/-- A field that has to be there. -/
def Fields.required {α : Type} (fields : Fields) (position : Nat) (name : String)
    (decode : Value → Except DecodeFault α) : Except DecodeFault α :=
  match fields.get? position name with
  | some value => decode value
  | none => .error (.missing name)

/-- Whether a field is a number written with a minus sign. -/
def Fields.hasMinus (fields : Fields) (position : Nat) (name : String) : Bool :=
  match fields.get? position name with
  | some (.float _ minus) => minus
  | _ => false

def run (value : Value) : Except DecodeFault RunSettings := do
  let f ← fields value
  let d : RunSettings := {}
  return {
    mode := ← f.optional 0 "mode" d.mode mode
    jobs := ← f.optional 1 "jobs" d.jobs (nat maxWord)
    writeBack := ← f.optional 2 "write_back" d.writeBack bool
    outDir := ← f.optional 3 "out_dir" none fun v ↦ some <$> text v }

def sampling (value : Value) : Except DecodeFault (SamplingSettings Float) := do
  let f ← fields value
  let d : SamplingSettings Float := Settings.defaultSampling
  return {
    sampleCount := ← f.optional 0 "sample_count" d.sampleCount (nat maxWord)
    oversampling := ← f.optional 1 "oversampling" d.oversampling (nat maxWord)
    pruneCutoffMv := ← f.optional 2 "prune_cutoff_mv" d.pruneCutoffMv float
    maxAttempts := ← f.optional 3 "max_attempts" d.maxAttempts (nat (UInt32.size - 1))
    retryDelayMs := ← f.optional 4 "retry_delay_ms" d.retryDelayMs (nat maxWord) }

def classifier (value : Value) : Except DecodeFault (ClassifierLimits Float) := do
  let f ← fields value
  let d : ClassifierLimits Float := Config.defaultLimits
  return {
    hotFactor := ← f.optional 0 "hot_factor" d.hotFactor float
    deadFactor := ← f.optional 1 "dead_factor" d.deadFactor float
    rmsCutoffMv := ← f.optional 2 "rms_cutoff_mv" d.rmsCutoffMv float }

def threshold (value : Value) : Except DecodeFault (ThresholdSettings Float × Bool) := do
  let f ← fields value
  let d : ThresholdSettings Float := Settings.defaultThreshold
  return ({
    rmsFactor := ← f.optional 0 "rms_factor" d.rmsFactor float
    trimOffsetMv := ← f.optional 1 "trim_offset_mv" d.trimOffsetMv float
    fixedOffsetMv := ← f.optional 2 "fixed_offset_mv" d.fixedOffsetMv float
    guessPoints := ← f.optional 3 "guess_points" d.guessPoints (list (nat 65535))
    guessMarginMv := ← f.optional 4 "guess_margin_mv" d.guessMarginMv float
    slopeMin := ← f.optional 5 "slope_min" d.slopeMin float
    slopeMax := ← f.optional 6 "slope_max" d.slopeMax float
    deviationTolerance := ← f.optional 7 "deviation_tolerance" d.deviationTolerance float
    minMarginMv := ← f.optional 8 "min_margin_mv" d.minMarginMv float
    thdacMax := ← f.optional 9 "thdac_max" d.thdacMax (nat 65535) },
    f.hasMinus 0 "rms_factor")

def trim (value : Value) : Except DecodeFault (TrimSettings Float × Bool) := do
  let f ← fields value
  let d : TrimSettings Float := Settings.defaultTrim
  return ({
    low := ← f.optional 0 "low" d.low (nat 255)
    mid := ← f.optional 1 "mid" d.mid (nat 255)
    high := ← f.optional 2 "high" d.high (nat 255)
    trimMax := ← f.optional 3 "trim_max" d.trimMax (nat 255)
    slopeTolerance := ← f.optional 4 "slope_tolerance" d.slopeTolerance float
    bumpCutoffMv := ← f.optional 5 "bump_cutoff_mv" d.bumpCutoffMv float
    unusableWarnRatio := ← f.optional 6 "unusable_warn_ratio" d.unusableWarnRatio float },
    f.hasMinus 4 "slope_tolerance")

def logging (value : Value) : Except DecodeFault LogSettings := do
  let f ← fields value
  let optionalText := fun v ↦ some <$> text v
  return {
    file := ← f.optional 0 "file" none optionalText
    level := ← f.optional 1 "level" none optionalText
    rotation := ← f.optional 2 "rotation" none optionalText }

def simulation (value : Value) : Except DecodeFault SimulationParams := do
  let f ← fields value
  let d : SimulationParams := {}
  let channels := list (nat 255)
  return { d with
    seed := ← f.optional 0 "seed" d.seed fun v ↦ UInt64.ofNat <$> nat maxWord v
    baseline := ← f.optional 1 "baseline_adc" d.baseline float
    baselineSpread := ← f.optional 2 "baseline_spread_adc" d.baselineSpread float
    noiseRms := ← f.optional 3 "noise_rms_adc" d.noiseRms float
    thdacSlope := ← f.optional 4 "thdac_slope" d.thdacSlope float
    thdacIntercept := ← f.optional 5 "thdac_intercept" d.thdacIntercept float
    offsetSpread := ← f.optional 6 "channel_offset_spread_adc" d.offsetSpread float
    trimGain := ← f.optional 7 "trim_gain_adc" d.trimGain float
    failureRate := ← f.optional 8 "failure_rate" d.failureRate float
    outlierRate := ← f.optional 9 "outlier_rate" d.outlierRate float
    hotChannels := ← f.optional 10 "hot_channels" d.hotChannels channels
    deadChannels := ← f.optional 11 "dead_channels" d.deadChannels channels
    noisyChannels := ← f.optional 12 "noisy_channels" d.noisyChannels channels
    silentChannels := ← f.optional 13 "silent_channels" d.silentChannels channels }

def board (value : Value) : Except DecodeFault BoardEntry := do
  let f ← fields value
  return {
    name := ← f.required 0 "name" text
    side := ← f.required 1 "side" side
    sector := ← f.required 2 "sector" (nat 255)
    flavor := ← f.required 3 "flavor" flavor
    vmms := ← f.optional 4 "vmms" BoardEntry.defaultVmms vmms
    channels := ← f.optional 5 "channels" BoardEntry.defaultChannels (nat 255) }

def rule (value : Value) : Except DecodeFault UnconnectedRule := do
  let f ← fields value
  return {
    pattern := ← f.required 0 "pattern" text
    vmm := ← f.required 1 "vmm" byte
    first := ← f.required 2 "first" (nat 255)
    last := ← f.required 3 "last" (nat 255) }

/-- A configuration. A section that is missing is an empty one. -/
def config (value : Value) : Except DecodeFault (Config Float) := do
  let f ← fields value
  let empty : Value := .table []
  let sectionAt (position : Nat) (name : String) : Value := (f.get? position name).getD empty
  let itemsAt (position : Nat) (name : String) : Value := (f.get? position name).getD (.array [])
  let (thresholdSettings, rmsFactor) ← threshold (sectionAt 3 "threshold")
  let (trimSettings, slopeTolerance) ← trim (sectionAt 4 "trim")
  return {
    run := ← run (sectionAt 0 "run")
    sampling := ← sampling (sectionAt 1 "sampling")
    classifier := ← classifier (sectionAt 2 "classifier")
    threshold := thresholdSettings
    trim := trimSettings
    minus := { rmsFactor, slopeTolerance }
    logging := ← logging (sectionAt 5 "logging")
    simulation := ← simulation (sectionAt 6 "simulation")
    boards := ← list board (itemsAt 7 "devices")
    geometry := ← list rule (itemsAt 8 "geometry") }

end Decode

/-- The configuration a text denotes. -/
def Config.parse (text : String) : Except ConfigTextFault (Config Float) := do
  let value ← (Toml.parse text).mapError .toml
  (Decode.config value).mapError .decode

end ThresholdTrim
