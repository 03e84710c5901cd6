import ThresholdTrim.Context
import ThresholdTrim.Sampler

/-!
# Stages

A stage works on one device: it samples through the link and fills in the context. When it fails,
the context keeps what was entered before the failure, masks in particular.
-/

namespace ThresholdTrim

/-- A run over one device: its link and what is known about it. -/
structure Run (σ R : Type) where
  link : Link σ
  context : Context R

/-- A computation on a run that may fail; the run keeps what was done up to the failure. -/
abbrev Stage (σ R : Type) := ExceptT (CalibrationError R) (StateM (Run σ R))

namespace Stage

variable {σ R α : Type}

def context : Stage σ R (Context R) := return (← get).context

def update (f : Context R → Context R) : Stage σ R Unit :=
  modify fun run ↦ { run with context := f run.context }

/-- Samples through the link; the context is not touched. -/
def sample (sampler : Sampler σ R α) : Stage σ R α :=
  ExceptT.mk fun run ↦
    let (answer, link) := sampler.run run.link
    (answer, { run with link })

/-- The outcome of a stage as a value, so that a failure can be dealt with. -/
def attempt (stage : Stage σ R α) : Stage σ R (Except (CalibrationError R) α) :=
  ExceptT.lift stage.run

def note (notice : Notice) : Stage σ R Unit := sample (Sampler.note notice)

/-- Takes a channel out of use. -/
def mask (channel : Nat) (reason : MaskReason) : Stage σ R Unit :=
  modify fun run ↦
    { link := run.link.enter (.masked channel reason)
      context := { run.context with mask := run.context.mask.mask channel reason } }

/-- A value every later step needs. -/
def need (value : Option α) : Stage σ R α :=
  match value with
  | some a => return a
  | none => throw .noData

end Stage

end ThresholdTrim
