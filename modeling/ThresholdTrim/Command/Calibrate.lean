import ThresholdTrim.Command.Failure
import ThresholdTrim.Config
import ThresholdTrim.Document
import ThresholdTrim.FrontEnd.Model
import ThresholdTrim.Pool
import ThresholdTrim.RowLog

/-!
# Calibrating and probing configured devices

The two commands, on simulated front-ends. A calibration always has outputs, whatever became of its
devices; it fails afterwards when it was interrupted or when nothing was calibrated. A self-check
samples one channel of every device and ends at the first that does not answer.
-/

namespace ThresholdTrim.Command

variable [Generator]

/-- Front-end of one device. -/
def openFrontEnd (config : Config Float) (spec : DeviceSpec) : Except Failure Model :=
  match SimulatedModel.forDevice (config.simulationOf spec) spec.key with
  | .ok model => .ok (.simulated model)
  | .error error =>
    .error ((Failure.of (.frontEnd error)).within ("open front-end for " ++ spec.key.text))

/-- Every device the configuration lists; there has to be one. -/
def listDevices (config : Config Float) : Except Failure (List DeviceSpec) :=
  match config.devices with
  | [] => .error (.of (.setup .noDevices))
  | specs => .ok specs

/-! ## Calibration -/

/-- Outcome of one device for the console. -/
structure DeviceSummary where
  key : DeviceKey
  status : Status Float
  thresholdDac : Nat
  masked : Nat
  secondPass : Bool
  acquisitions : Nat

namespace DeviceSummary

def ofReport (report : DeviceReport Float) : DeviceSummary :=
  let context := report.context
  { key := context.spec.key
    status := context.status
    thresholdDac := context.thresholdDac
    masked := context.mask.maskedCount
    secondPass := context.secondPass
    acquisitions := report.acquisitions }

def isResolved (summary : DeviceSummary) : Bool :=
  match summary.status with
  | .resolved => true
  | _ => false

def statusText (summary : DeviceSummary) : String :=
  match summary.status with
  | .pending => "pending"
  | .resolved => "resolved"
  | .masked _ => "masked"

/-- Why the device was given up on, if it was. -/
def causeText? (summary : DeviceSummary) : Option String :=
  match summary.status with
  | .masked error => some error.message
  | _ => none

def json (summary : DeviceSummary) : Json :=
  .ofMembers [
    ("device", .str summary.key.board),
    ("vmm", .nat summary.key.vmm.toNat),
    ("status", .str summary.statusText),
    ("cause", match summary.causeText? with
      | some cause => .str cause
      | none => .null),
    ("threshold_dac", .nat summary.thresholdDac),
    ("masked", .nat summary.masked),
    ("second_pass", .bool summary.secondPass),
    ("acquisitions", .nat summary.acquisitions)]

def line (summary : DeviceSummary) : String :=
  summary.key.text ++ ": " ++ summary.statusText
    ++ " thresholdDac=" ++ toString summary.thresholdDac
    ++ " masked=" ++ toString summary.masked
    ++ (if summary.secondPass then " second-pass" else "")
    ++ (match summary.causeText? with
      | some cause => " (" ++ cause ++ ")"
      | none => "")

end DeviceSummary

/-- What a calibration leaves behind. -/
structure CalibrationOutcome where
  rowLog : String
  document : String
  result : Except Failure (List DeviceSummary)

/-- Calibrates one device on a front-end of its own. -/
def calibrateDevice (config : Config Float) (options : RunOptions) (spec : DeviceSpec) :
    Delivery Float :=
  match openFrontEnd config spec with
  | .error failure => .ofSetupFailure config.settings spec failure.text
  | .ok model =>
    let assembly : Assembly Model Float :=
      { frontEnd := some Model.frontEnd
        spec := some spec
        geometry := some config.exclusions
        settings := some config.settings
        mode := options.mode
        writeBack := options.writeBack }
    match assembly.build with
    | .error error => .ofSetupFailure config.settings spec error.message
    | .ok calibrator => .ofCalibrator calibrator model

/-- Whether a run over `total` devices counts as failed, given what it delivered. -/
def runError? (stopped : Bool) (total : Nat) (contexts : List (Context Float)) :
    Option RunError :=
  if stopped && decide (contexts.length < total) then
    some (.interrupted contexts.length total)
  else if !contexts.isEmpty && contexts.all (!·.isResolved) then
    some (.allDevicesFailed contexts.length)
  else none

/-- Outcome of a run over `total` devices, from what it delivered and whether the stop flag was
raised in the end. The outputs are those of every device that was delivered, whatever the result. -/
def conclude (stopped : Bool) (total : Nat) (deliveries : List (Delivery Float)) :
    CalibrationOutcome :=
  let contexts := deliveries.map (·.report.context)
  { rowLog := RowLog.text (contexts.flatMap ChannelRow.all)
    document := (Document.ofContexts contexts).pretty
    result := match runError? stopped total contexts with
      | some error => .error (.of (.run error))
      | none => .ok (deliveries.map fun delivery ↦ .ofReport delivery.report) }

/-- Calibrates devices, with the stop flag raised from the start or never. -/
def calibrate (config : Config Float) (options : RunOptions) (stopped : Bool)
    (specs : List DeviceSpec) : CalibrationOutcome :=
  conclude stopped specs.length (Pool.run (calibrateDevice config options) stopped specs)

/-! ## Self-check -/

/-- Samples one channel at its baseline. -/
def probe (config : Config Float) (spec : DeviceSpec) (channel : Nat) : Except Failure Unit := do
  let model ← openFrontEnd config spec
  let bench : Bench Model Float := ⟨Model.frontEnd, config.sampling⟩
  let key := spec.key.channel channel
  let sampler : Sampler Model Float (List Nat) :=
    Sampler.acquire bench ⟨key, .baseline, config.sampling.sampleCount⟩
  match (sampler.run (Link.new model)).1 with
  | .ok _ => .ok ()
  | .error error => .error ((Failure.of (.calibration error)).within ("probe " ++ key.text))

/-- Probes the first connected channel of a device; a device without one has nothing to probe. -/
def checkDevice (config : Config Float) (spec : DeviceSpec) : Except Failure Unit := do
  (config.settings.validate spec).mapError fun error ↦ .of (.setup error)
  let connected := (List.range spec.channels).find? fun channel ↦
    !config.exclusions.isUnconnected (spec.key.channel channel)
  match connected with
  | none => return
  | some channel => probe config spec channel

/-- Checks devices in order, up to the first failure. The number of devices is returned. -/
def selfCheck (config : Config Float) (specs : List DeviceSpec) : Except Failure Nat := do
  specs.forM (checkDevice config)
  return specs.length

end ThresholdTrim.Command
