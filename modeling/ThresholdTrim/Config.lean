import ThresholdTrim.FrontEnd.Simulated
import ThresholdTrim.Geometry
import ThresholdTrim.Settings

/-!
# Configurations of a run

A configuration says which boards to calibrate, with which settings, and on which simulated
front-ends. Boards are expanded into devices, and the settings of the stages read off, by functions
of the configuration; `Config.Validate` says when it makes sense.
-/

namespace ThresholdTrim

/-- How a run goes about its devices. -/
structure RunSettings where
  mode : Mode := .trim
  /-- Devices calibrated at a time. -/
  jobs : Nat := 4
  /-- Whether resolved registers are pushed back to the front-end. -/
  writeBack : Bool := false
  /-- Directory of the row log and the register document. -/
  outDir : Option String := none

/-- Limits of the classifier that can be set; its shares cannot. -/
structure ClassifierLimits (R : Type) where
  hotFactor : R
  deadFactor : R
  rmsCutoffMv : R

structure LogSettings where
  file : Option String := none
  level : Option String := none
  /-- When a new file is begun: `daily`, `hourly`, or never. -/
  rotation : Option String := none

/-- A board with some of its devices. -/
structure BoardEntry where
  name : String
  side : Side
  sector : Nat
  flavor : Flavor
  vmms : List UInt8
  channels : Nat

/-- Which of the numbers that must not be negative are written with a minus sign. A number shows
its sign, a not-a-number does not. -/
structure MinusSigns where
  rmsFactor : Bool := false
  slopeTolerance : Bool := false

structure Config (R : Type) where
  run : RunSettings
  sampling : SamplingSettings R
  classifier : ClassifierLimits R
  threshold : ThresholdSettings R
  trim : TrimSettings R
  minus : MinusSigns
  logging : LogSettings
  /-- Model of every device; the number of channels is the board's. -/
  simulation : SimulationParams
  boards : List BoardEntry
  /-- Exclusions beyond the known ones. -/
  geometry : List UnconnectedRule

/-- Devices of a board that lists none. -/
def BoardEntry.defaultVmms : List UInt8 := [0, 1, 2, 3, 4, 5, 6, 7]

def BoardEntry.defaultChannels : Nat := 64

/-- One device per index, in the order listed. -/
def BoardEntry.devices (board : BoardEntry) : List DeviceSpec :=
  board.vmms.map fun vmm ↦
    { key := ⟨board.name, vmm⟩
      side := board.side
      sector := board.sector
      flavor := board.flavor
      channels := board.channels }

namespace Config

variable {R : Type} [Scalar R]

/-- Every device of a configuration, in the order of its boards. -/
def devices (config : Config R) : List DeviceSpec := config.boards.flatMap BoardEntry.devices

/-- Settings of the stages; the shares of the classifier are the tuned ones. -/
def settings (config : Config R) : Settings R where
  sampling := config.sampling
  classifier :=
    { (Settings.defaultClassifier : ClassifierSettings R) with
      hotFactor := config.classifier.hotFactor
      deadFactor := config.classifier.deadFactor
      rmsCutoffMv := config.classifier.rmsCutoffMv }
  threshold := config.threshold
  trim := config.trim

/-- The known exclusions and the configured ones. -/
def exclusions (config : Config R) : Geometry := Geometry.builtin.extend config.geometry

/-- Model of one device. -/
def simulationOf (config : Config R) (spec : DeviceSpec) : SimulationParams :=
  { config.simulation with channels := spec.channels }

/-- Limits the classifier is tuned for. -/
def defaultLimits : ClassifierLimits R where
  hotFactor := (Settings.defaultClassifier : ClassifierSettings R).hotFactor
  deadFactor := (Settings.defaultClassifier : ClassifierSettings R).deadFactor
  rmsCutoffMv := (Settings.defaultClassifier : ClassifierSettings R).rmsCutoffMv

end Config

/-! ## Options of a run

What the command line leaves open the configuration decides. -/

/-- What the command line says about a run. -/
structure Overrides where
  mode : Option Mode := none
  outDir : Option String := none
  jobs : Option Nat := none
  writeBack : Bool := false
  deriving DecidableEq

structure RunOptions where
  mode : Mode
  /-- Devices calibrated at a time, at least one. -/
  jobs : Nat
  outDir : String
  writeBack : Bool
  deriving DecidableEq

/-- The command line goes before the configuration; outputs go to the current directory unless one
of them says otherwise. -/
def RunOptions.resolve (run : RunSettings) (overrides : Overrides) : RunOptions where
  mode := overrides.mode.getD run.mode
  jobs := max (overrides.jobs.getD run.jobs) 1
  outDir := (overrides.outDir <|> run.outDir).getD "."
  writeBack := overrides.writeBack || run.writeBack

end ThresholdTrim
