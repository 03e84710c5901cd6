import ThresholdTrim.FrontEnd.Simulated

/-!
# Models of front-ends

The front-ends that need no hardware, as one machine whose state is the model itself, and a plan of
faults that can be laid over any front-end. A fault plan answers some calls in place of the
front-end, or spoils its batches, and so stands for links that fail and come back.
-/

namespace ThresholdTrim

/-- A fixed list of answers, one a call whatever is asked for. -/
structure ScriptedModel where
  script : List (Except FrontEndError (List Nat))
  failWrites : Bool

namespace ScriptedModel

def acquire (model : ScriptedModel) : Except FrontEndError (List Nat) × ScriptedModel :=
  match model.script with
  | [] => (.error (.worded "script exhausted"), model)
  | answer :: rest => (answer, { model with script := rest })

end ScriptedModel

variable [Generator]

inductive Model
  | linear (model : LinearModel Float)
  | scripted (model : ScriptedModel)
  | simulated (model : SimulatedModel)

namespace Model

def acquire (request : Request) : Model → Except FrontEndError (List Nat) × Model
  | .linear model => (model.acquire request, .linear model)
  | .scripted model =>
    let (answer, next) := model.acquire
    (answer, .scripted next)
  | .simulated model =>
    let (answer, next) := model.acquire request
    (answer, .simulated next)

def write : Model → Except FrontEndError Unit
  | .scripted model => if model.failWrites then .error (.worded "write rejected") else .ok ()
  | _ => .ok ()

/-- Level of a channel before noise, where the model has one. -/
def level (model : Model) (channel : Nat) (setting : Setting) : Option Float :=
  match model with
  | .linear model => some (model.level channel setting)
  | .scripted _ => none
  | .simulated model => model.level channel setting

def frontEnd : FrontEnd Model where
  acquire := Model.acquire
  write _ _ model := (model.write, model)

end Model

/-! ## Faults -/

/-- What becomes of a call a fault applies to. -/
inductive FaultEffect
  /-- Answered with an error; the front-end is not called. -/
  | fail (error : FrontEndError)
  /-- Answered with a batch; the front-end is not called. -/
  | replace (batch : List Nat)
  /-- The batch is cut short and shifted, within the range of the converter. -/
  | spoil (take : Option Nat) (shift : Int)

/-- Calls a fault applies to: all those that agree with every condition given. -/
structure FaultRule where
  fromCall : Option Nat := none
  toCall : Option Nat := none
  channel : Option Nat := none
  /-- Baseline readings or threshold readings. -/
  atBaseline : Option Bool := none
  dac : Option Nat := none
  trim : Option Nat := none
  effect : FaultEffect

/-- Faults laid over a front-end; the first rule that applies counts. -/
structure FaultPlan where
  rules : List FaultRule
  /-- What register writes fail with, if they do. -/
  writeError : Option FrontEndError

namespace FaultRule

def applies (rule : FaultRule) (call : Nat) (request : Request) : Bool :=
  let agrees {α : Type} (condition : Option α) (test : α → Bool) : Bool :=
    match condition with
    | none => true
    | some a => test a
  agrees rule.fromCall (· ≤ call) && agrees rule.toCall (call ≤ ·)
    && agrees rule.channel (· == request.channel.channel)
    && agrees rule.atBaseline (· == (request.setting == .baseline))
    && agrees rule.dac (· == request.setting.dac)
    && agrees rule.trim (· == request.setting.trim)

end FaultRule

/-- A batch cut to at most `take` samples and shifted. -/
def spoilBatch (take : Option Nat) (shift : Int) (batch : List Nat) : List Nat :=
  (batch.take (take.getD batch.length)).map fun sample : Nat ↦
    (max 0 (min ((sample : Int) + shift) maxCount)).toNat

/-- What the plan makes of a call, if it says anything. -/
def FaultPlan.effect? (plan : FaultPlan) (call : Nat) (request : Request) : Option FaultEffect :=
  (plan.rules.find? (·.applies call request)).map (·.effect)

/-- A front-end under a fault plan. Its state counts the calls made so far. -/
def FrontEnd.withFaults {σ : Type} (inner : FrontEnd σ) (plan : FaultPlan) :
    FrontEnd (σ × Nat) where
  acquire request state :=
    let call := state.2 + 1
    match plan.effect? call request with
    | some (.fail error) => (.error error, (state.1, call))
    | some (.replace batch) => (.ok batch, (state.1, call))
    | some (.spoil take shift) =>
      let (answer, next) := inner.acquire request state.1
      (answer.map (spoilBatch take shift), (next, call))
    | none =>
      let (answer, next) := inner.acquire request state.1
      (answer, (next, call))
  write device registers state :=
    match plan.writeError with
    | some error => (.error error, state)
    | none =>
      let (answer, next) := inner.write device registers state.1
      (answer, (next, state.2))

end ThresholdTrim
