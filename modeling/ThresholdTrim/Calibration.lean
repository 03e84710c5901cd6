import ThresholdTrim.Baseline
import ThresholdTrim.Classification
import ThresholdTrim.Threshold
import ThresholdTrim.Trim

/-!
# Calibrating one device

The stages run in order, as far as the mode asks for. A calibration never fails: a stage that does
takes the whole device out of use, and the context says why. Pushing the registers back is a last
step that cannot change what is reported.
-/

namespace ThresholdTrim

variable {σ R : Type} [Scalar R]

namespace Calibration

/-- The stages of a mode, up to the first that fails. -/
def stages (bench : Bench σ R) (geometry : Geometry) (settings : Settings R) (mode : Mode) :
    Stage σ R Unit := do
  let _ ← Baseline.sampleAll bench geometry
  let _ ← classify settings.classifier
  if mode = .baseline then return
  let constants ← Threshold.solve bench settings.threshold
  Stage.update fun context ↦ { context with threshold := some constants }
  let _ ← Threshold.recheckMargin bench settings.threshold
  if mode = .threshold then return
  Trim.optimize bench settings.trim

/-- Gives up on the device of a run. -/
def giveUp (run : Run σ R) (cause : CalibrationError R) : Run σ R where
  link := run.link.enter (.notice .deviceMasked)
  context := run.context.fail cause

/-- Runs the stages `mode` asks for on one device. -/
def calibrate (bench : Bench σ R) (geometry : Geometry) (settings : Settings R) (mode : Mode)
    (spec : DeviceSpec) (link : Link σ) : Run σ R :=
  let start : Run σ R := ⟨link, Context.new spec settings.threshold.thdacMax settings.trim.mid⟩
  match (stages bench geometry settings (mode.onBoard spec.flavor)).run start with
  | (.ok (), run) => { run with context := { run.context with status := .resolved } }
  | (.error cause, run) => giveUp run cause

end Calibration

/-- Result of calibrating one device. -/
structure DeviceReport (R : Type) where
  context : Context R
  /-- Mode that ran; without trimmers a calibration ends at the threshold. -/
  mode : Mode
  /-- Calls made to the front-end, retries included. -/
  acquisitions : Nat

/-- Everything needed to calibrate one device. -/
structure Calibrator (σ R : Type) where
  frontEnd : FrontEnd σ
  spec : DeviceSpec
  geometry : Geometry
  settings : Settings R
  mode : Mode
  writeBack : Bool

namespace Calibrator

def bench (calibrator : Calibrator σ R) : Bench σ R :=
  ⟨calibrator.frontEnd, calibrator.settings.sampling⟩

/-- Pushes the registers of a device; a failure is noted and goes no further. -/
def pushRegisters (calibrator : Calibrator σ R) (context : Context R) (link : Link σ) : Link σ :=
  let push : Sampler σ R Unit :=
    Sampler.writeRegisters calibrator.bench context.spec.key context.registers
  match push.run link with
  | (.ok (), link) => link
  | (.error _, link) => link.enter (.notice .writeBackFailed)

/-- Calibrates the device and pushes the registers back when asked to. -/
def run (calibrator : Calibrator σ R) (link : Link σ) : DeviceReport R × Link σ :=
  let run := Calibration.calibrate calibrator.bench calibrator.geometry calibrator.settings
    calibrator.mode calibrator.spec link
  let report := ⟨run.context, calibrator.mode.onBoard calibrator.spec.flavor, run.link.calls⟩
  (report, if calibrator.writeBack then calibrator.pushRegisters run.context run.link else run.link)

end Calibrator

/-! ## Assembly -/

/-- Parts of a calibrator, some of which may still be missing. Geometry and settings have values
to fall back on; a front-end and a device do not. -/
structure Assembly (σ R : Type) where
  frontEnd : Option (FrontEnd σ) := none
  spec : Option DeviceSpec := none
  geometry : Option Geometry := none
  settings : Option (Settings R) := none
  mode : Mode := .trim
  writeBack : Bool := false

/-- The calibrator, once nothing is missing and the settings are valid for the device. -/
def Assembly.build (assembly : Assembly σ R) : Except SetupError (Calibrator σ R) := do
  let some frontEnd := assembly.frontEnd | throw .missingFrontEnd
  let some spec := assembly.spec | throw .missingDevice
  let settings := assembly.settings.getD .tuned
  settings.validate spec
  return {
    frontEnd, spec, settings
    geometry := assembly.geometry.getD .builtin
    mode := assembly.mode
    writeBack := assembly.writeBack }

end ThresholdTrim
