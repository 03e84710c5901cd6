import ThresholdTrim.Calibration

/-!
# Calibrating many devices

Devices are spread over workers, each of which takes the next device from a queue, looks at the
stop flag, calibrates and delivers. `Step` is that behaviour with all its interleavings, with the
work on one device a function of the device. `run` is the schedule of a single worker. Reports
come back in the order of device keys, so that the schedule cannot show.
-/

namespace ThresholdTrim

/-- Report of one device with the journal of its run. -/
structure Delivery (R : Type) where
  report : DeviceReport R
  journal : Journal

namespace Delivery

variable {R : Type} [Scalar R]

def key (delivery : Delivery R) : DeviceKey := delivery.report.context.spec.key

/-- A device whose calibrator could not be made: masked, with the register values of the settings
to fall back on. -/
def ofSetupFailure (settings : Settings R) (spec : DeviceSpec) (cause : String) : Delivery R where
  report :=
    { context := (Context.new spec settings.threshold.thdacMax settings.trim.mid).fail
        (.hardware (.reported cause))
      mode := .baseline
      acquisitions := 0 }
  journal := [.notice .setupFailed, .notice .deviceMasked]

/-- A device with its calibrator. -/
def ofCalibrator {σ : Type} (calibrator : Calibrator σ R) (frontEnd : σ) : Delivery R :=
  let (report, link) := calibrator.run (Link.new frontEnd)
  ⟨report, link.journal⟩

end Delivery

namespace Pool

variable {R : Type} [Scalar R]

/-- Deliveries in the order of their device keys; those of one key keep their order. -/
def inOrder (deliveries : List (Delivery R)) : List (Delivery R) :=
  deliveries.mergeSort fun a b ↦ a.key.le b.key

/-- Number of workers for a number of devices: what is asked for, but at least one and no more
than there are devices. -/
def workers (jobs devices : Nat) : Nat := max 1 (min jobs (max devices 1))

/-- One worker, until the queue is empty. Once the flag is raised no device is started. -/
def run (work : DeviceSpec → Delivery R) (stopped : Bool) (specs : List DeviceSpec) :
    List (Delivery R) :=
  inOrder (if stopped then [] else specs.map work)

/-! ## Interleavings -/

inductive Worker
  | idle
  /-- Has taken a device and not yet looked at the flag. -/
  | holding (spec : DeviceSpec)
  | running (spec : DeviceSpec)

structure State (R : Type) where
  queue : List DeviceSpec
  workers : List Worker
  /-- Deliveries in the order they were made. -/
  delivered : List (Delivery R)
  /-- Devices that were taken and not started. -/
  skipped : List DeviceSpec
  stopRaised : Bool

/-- All devices queued, all workers idle. -/
def State.start (jobs : Nat) (specs : List DeviceSpec) (stopRaised : Bool) : State R :=
  ⟨specs, List.replicate (Pool.workers jobs specs.length) .idle, [], [], stopRaised⟩

/-- One step of one worker, or the flag being raised. -/
inductive Step (work : DeviceSpec → Delivery R) : State R → State R → Prop
  | take {s : State R} {i spec rest} (idle : s.workers[i]? = some .idle)
      (queued : s.queue = spec :: rest) :
      Step work s { s with queue := rest, workers := s.workers.set i (.holding spec) }
  | skip {s : State R} {i spec} (held : s.workers[i]? = some (.holding spec))
      (raised : s.stopRaised = true) :
      Step work s
        { s with workers := s.workers.set i .idle, skipped := s.skipped ++ [spec] }
  | start {s : State R} {i spec} (held : s.workers[i]? = some (.holding spec))
      (lowered : s.stopRaised = false) :
      Step work s { s with workers := s.workers.set i (.running spec) }
  | deliver {s : State R} {i spec} (running : s.workers[i]? = some (.running spec)) :
      Step work s
        { s with workers := s.workers.set i .idle, delivered := s.delivered ++ [work spec] }
  | raise {s : State R} : Step work s { s with stopRaised := true }

/-- Nothing is left to do. -/
def State.isDone (s : State R) : Prop := s.queue = [] ∧ ∀ w ∈ s.workers, w = .idle

end Pool

end ThresholdTrim
