import ThresholdTrim.Journal
import ThresholdTrim.Settings
import ThresholdTrim.Statistics

/-!
# Sampling with retries

Every batch of a calibration is taken through `Sampler.acquire`: up to a number of attempts,
spaced by pauses, until the front-end answers with samples. A short batch is accepted, an empty one
counts as a failure.

A `Link` is the connection to one device: the state of its front-end, the clock, the number of
calls made so far and the journal, which is kept newest first and read in order. The clock is told
the time: it only moves when it is slept on or advanced, so that a whole calibration takes no time
and the pauses it would have taken can be read off afterwards. Spans are whole milliseconds, totals
saturate.
-/

namespace ThresholdTrim

structure Clock where
  /-- Time since the clock was made, in milliseconds. -/
  elapsed : Nat
  /-- Part of it spent sleeping. -/
  slept : Nat
  /-- Number of sleeps. -/
  sleeps : Nat
  deriving DecidableEq

namespace Clock

/-- Longest span: the last millisecond of `2⁶⁴` seconds. -/
def maxSpan : Nat := UInt64.size * 1000 - 1

/-- Largest number of sleeps that is told apart. -/
def maxSleeps : Nat := UInt32.size - 1

def start : Clock := ⟨0, 0, 0⟩

/-- Moves the clock without a sleep. -/
def advance (clock : Clock) (ms : Nat) : Clock :=
  { clock with elapsed := min (clock.elapsed + ms) maxSpan }

def sleep (clock : Clock) (ms : Nat) : Clock where
  elapsed := min (clock.elapsed + ms) maxSpan
  slept := min (clock.slept + ms) maxSpan
  sleeps := min (clock.sleeps + 1) maxSleeps

/-- Milliseconds since a remembered time, at most a machine word. -/
def since (clock : Clock) (epoch : Nat) : Nat := min (clock.elapsed - epoch) (UInt64.size - 1)

end Clock

/-! ## Links -/

structure Link (σ : Type) where
  frontEnd : σ
  clock : Clock
  /-- Calls made to the front-end, retries included, at most a machine word. -/
  calls : Nat
  /-- Entries, newest first. -/
  log : List Entry

namespace Link

variable {σ : Type}

def new (frontEnd : σ) : Link σ := ⟨frontEnd, .start, 0, []⟩

def journal (link : Link σ) : Journal := link.log.reverse

def enter (link : Link σ) (entry : Entry) : Link σ := { link with log := entry :: link.log }

end Link

/-- How a device is sampled: the front-end it answers through and the sampling settings. -/
structure Bench (σ R : Type) where
  frontEnd : FrontEnd σ
  sampling : SamplingSettings R

/-! ## Acquisitions -/

/-- A computation on a link that may fail; the link keeps what was done up to the failure. -/
abbrev Sampler (σ R : Type) := ExceptT (CalibrationError R) (StateM (Link σ))

namespace Sampler

open Statistics

variable {σ R : Type}

def note (notice : Notice) : Sampler σ R Unit := modify (·.enter (.notice notice))

/-- Waits for one retry delay. -/
def pause (bench : Bench σ R) : Sampler σ R Unit :=
  modify fun link ↦
    { link.enter .pause with clock := link.clock.sleep bench.sampling.retryDelayMs }

/-- One call to the front-end. -/
def call (bench : Bench σ R) (request : Request) :
    Sampler σ R (Except FrontEndError (List Nat)) :=
  modifyGet fun link ↦
    let (answer, next) := bench.frontEnd.acquire request link.frontEnd
    (answer,
      { link.enter (.reading request answer) with
        frontEnd := next
        calls := min (link.calls + 1) maxWord })

/-- A batch with samples, or what is wrong with the answer. -/
def usable : Except FrontEndError (List Nat) → Except String (List Nat)
  | .ok [] => .error "empty batch"
  | .ok batch => .ok batch
  | .error fault => .error fault.diagnosis.message

/-- Calls until a batch with samples comes back, at most `further` times after the first. Fails
with what was wrong with the last answer. -/
def retry (bench : Bench σ R) (request : Request) :
    Nat → Sampler σ R (Except String (List Nat))
  | 0 => return usable (← call bench request)
  | further + 1 => do
    match usable (← call bench request) with
    | .ok batch => return .ok batch
    | .error _ => do
      pause bench
      retry bench request further

/-- A batch for the request, with as many attempts as the settings allow. -/
def acquire (bench : Bench σ R) (request : Request) : Sampler σ R (List Nat) := do
  let attempts := bench.sampling.attempts
  match ← retry bench request (attempts - 1) with
  | .ok batch =>
    if batch.length ≠ request.count then note .partialBatch
    return batch
  | .error reason =>
    note .givingUpOnChannel
    throw (.sampling request.channel attempts reason)

variable [Scalar R]

/-- Level of a channel: median of one nominal batch. -/
def medianLevel (bench : Bench σ R) (channel : ChannelKey) (setting : Setting) :
    Sampler σ R R := do
  let batch ← acquire bench ⟨channel, setting, max bench.sampling.sampleCount 1⟩
  match median batch with
  | some level => return Scalar.ofCount level
  | none => throw .noData

/-- Mean of one oversampled batch less the samples `margin` millivolts or more from its
median. -/
def prunedMeanLevel (bench : Bench σ R) (channel : ChannelKey) (setting : Setting)
    (margin : R) (flavor : Flavor) : Sampler σ R R := do
  let batch ← acquire bench ⟨channel, setting, bench.sampling.oversampled⟩
  match median batch with
  | none => throw .noData
  | some center =>
    match prune batch (Scalar.ofCount center) margin flavor with
    | [] => throw .noData
    | kept => return mean (ofCounts kept)

/-- Pushes a register set, without retries. -/
def writeRegisters (bench : Bench σ R) (device : DeviceKey) (registers : RegisterMap) :
    Sampler σ R Unit := do
  let answer ← modifyGet fun link ↦
    let (answer, next) := bench.frontEnd.write device registers link.frontEnd
    (answer, { link.enter (.write device registers answer) with frontEnd := next })
  match answer with
  | .ok () => return
  | .error fault => throw (.hardware fault.diagnosis)

end Sampler

end ThresholdTrim
