import ThresholdTrim.Proofs.Course

/-!
# Two runs side by side

The same stage, run on two front-ends. Their links are related in one way or another, and the
contexts agree. `Alike` is the relation between two computations that keep their runs so related
and give the same answer.

The rules for binds and loops know nothing of runs; those after them are one for each thing a stage
can do. All they ask of the relation is that it lasts when both runs enter the same notice or
masking (`Link.Lasts`). No rule mentions a front-end, so what is shown of a single acquisition
carries over to a whole calibration. A relation that says the links are equal and have some property
is the special case of a property every stage keeps.
-/

namespace ThresholdTrim

variable {σ τ R α β γ : Type}

/-! ## Computations side by side -/

section

variable {ε s s' : Type} {rel : s → s' → Prop} {p : ExceptT ε (StateM s) α}
  {q : ExceptT ε (StateM s') α}

/-- From related states, both give the same answer and end in related states. -/
def Alike (rel : s → s' → Prop) (p : ExceptT ε (StateM s) α) (q : ExceptT ε (StateM s') α) : Prop :=
  ∀ k k', rel k k' → (p.run k).1 = (q.run k').1 ∧ rel (p.run k).2 (q.run k').2

namespace Alike

theorem pure (a : α) :
    Alike rel (Pure.pure a : ExceptT ε (StateM s) α) (Pure.pure a : ExceptT ε (StateM s') α) :=
  fun _ _ hrel ↦ ⟨rfl, hrel⟩

theorem throw (cause : ε) :
    Alike rel (MonadExcept.throw cause : ExceptT ε (StateM s) α)
      (MonadExcept.throw cause : ExceptT ε (StateM s') α) :=
  fun _ _ hrel ↦ ⟨rfl, hrel⟩

theorem bind {next : α → ExceptT ε (StateM s) β} {next' : α → ExceptT ε (StateM s') β}
    (h : Alike rel p q) (hnext : ∀ a, Alike rel (next a) (next' a)) :
    Alike rel (p >>= next) (q >>= next') := by
  intro k k' hrel
  have hboth := h k k' hrel
  rw [run_bind, run_bind]
  generalize p.run k = left at hboth ⊢
  generalize q.run k' = right at hboth ⊢
  obtain ⟨answer, k₁⟩ := left
  obtain ⟨_, k₁'⟩ := right
  obtain ⟨rfl, hrel⟩ := hboth
  cases answer with
  | error => exact ⟨rfl, hrel⟩
  | ok a => exact hnext a k₁ k₁' hrel

/-- Both take the same branch. -/
theorem ite {P : Prop} [Decidable P] {p₁ p₂ : ExceptT ε (StateM s) α}
    {q₁ q₂ : ExceptT ε (StateM s') α} (h₁ : Alike rel p₁ q₁) (h₂ : Alike rel p₂ q₂) :
    Alike rel (if P then p₁ else p₂) (if P then q₁ else q₂) := by
  by_cases hP : P
  · rw [if_pos hP, if_pos hP]
    exact h₁
  · rw [if_neg hP, if_neg hP]
    exact h₂

theorem mapM {f : β → ExceptT ε (StateM s) γ} {f' : β → ExceptT ε (StateM s') γ}
    (hf : ∀ x, Alike rel (f x) (f' x)) (xs : List β) : Alike rel (xs.mapM f) (xs.mapM f') := by
  induction xs with
  | nil => exact pure []
  | cons x xs ih =>
    rw [List.mapM_cons, List.mapM_cons]
    exact (hf x).bind fun y ↦ ih.bind fun ys ↦ pure (y :: ys)

theorem forM {f : β → ExceptT ε (StateM s) Unit} {f' : β → ExceptT ε (StateM s') Unit}
    (hf : ∀ x, Alike rel (f x) (f' x)) (xs : List β) : Alike rel (xs.forM f) (xs.forM f') := by
  induction xs with
  | nil => exact pure ()
  | cons x xs ih => exact (hf x).bind fun _ ↦ ih

theorem foldlM {f : α → β → ExceptT ε (StateM s) α} {f' : α → β → ExceptT ε (StateM s') α}
    (hf : ∀ a x, Alike rel (f a x) (f' a x)) (xs : List β) (a : α) :
    Alike rel (xs.foldlM f a) (xs.foldlM f' a) := by
  induction xs generalizing a with
  | nil => exact pure a
  | cons x xs ih =>
    rw [List.foldlM_cons, List.foldlM_cons]
    exact (hf a x).bind fun a' ↦ ih a'

end Alike

end

/-! ## Runs side by side -/

/-- Two runs whose links are related and whose contexts agree. -/
def Run.Paired (rel : Link σ → Link τ → Prop) (run : Run σ R) (run' : Run τ R) : Prop :=
  rel run.link run'.link ∧ run.context = run'.context

/-- A relation that lasts when the same is entered in both links. Stages have warnings to give and
no errors. -/
structure Link.Lasts (rel : Link σ → Link τ → Prop) : Prop where
  notice : ∀ {notice link link'}, notice.isError = false → rel link link' →
    rel (link.enter (.notice notice)) (link'.enter (.notice notice))
  masked : ∀ {channel reason link link'}, rel link link' →
    rel (link.enter (.masked channel reason)) (link'.enter (.masked channel reason))

variable {rel : Link σ → Link τ → Prop} {notice : Notice}

namespace Sampler

/-- Samplers that keep two links related. -/
abbrev Alike (rel : Link σ → Link τ → Prop) : Sampler σ R α → Sampler τ R α → Prop :=
  ThresholdTrim.Alike rel

theorem alike_note (h : Link.Lasts rel) (hnotice : notice.isError = false) :
    Alike rel (note notice : Sampler σ R Unit) (note notice : Sampler τ R Unit) :=
  fun _ _ hrel ↦ ⟨rfl, h.notice hnotice hrel⟩

end Sampler

namespace Stage

/-- Stages that keep two runs paired. -/
abbrev Alike (rel : Link σ → Link τ → Prop) : Stage σ R α → Stage τ R α → Prop :=
  ThresholdTrim.Alike (Run.Paired rel)

theorem alike_context :
    Alike rel (context : Stage σ R (Context R)) (context : Stage τ R (Context R)) :=
  fun _ _ hpaired ↦ ⟨congrArg Except.ok hpaired.2, hpaired⟩

theorem alike_update (f : Context R → Context R) :
    Alike rel (update f : Stage σ R Unit) (update f : Stage τ R Unit) :=
  fun _ _ hpaired ↦ ⟨rfl, hpaired.1, congrArg f hpaired.2⟩

theorem alike_sample {p : Sampler σ R α} {q : Sampler τ R α} (h : Sampler.Alike rel p q) :
    Alike rel (sample p) (sample q) := by
  intro run run' hpaired
  obtain ⟨hanswer, hlinks⟩ := h run.link run'.link hpaired.1
  exact ⟨hanswer, hlinks, hpaired.2⟩

theorem alike_attempt {p : Stage σ R α} {q : Stage τ R α} (h : Alike rel p q) :
    Alike rel (attempt p) (attempt q) := by
  intro run run' hpaired
  obtain ⟨hanswer, hruns⟩ := h run run' hpaired
  exact ⟨congrArg Except.ok hanswer, hruns⟩

theorem alike_note (h : Link.Lasts rel) (hnotice : notice.isError = false) :
    Alike rel (note notice : Stage σ R Unit) (note notice : Stage τ R Unit) :=
  alike_sample (Sampler.alike_note h hnotice)

theorem alike_mask (h : Link.Lasts rel) (channel : Nat) (reason : MaskReason) :
    Alike rel (mask channel reason : Stage σ R Unit) (mask channel reason : Stage τ R Unit) := by
  intro run run' hpaired
  obtain ⟨hlinks, hcontexts⟩ := hpaired
  refine ⟨rfl, h.masked hlinks, ?_⟩
  exact congrArg (fun context ↦ { context with mask := context.mask.mask channel reason }) hcontexts

/-- A channel given up on: noted, masked, and no value of its own. -/
theorem alike_giveUp (h : Link.Lasts rel) (hnotice : notice.isError = false) (channel : Nat)
    (reason : MaskReason) (a : α) :
    Alike rel (do note notice; mask channel reason; return a : Stage σ R α)
      (do note notice; mask channel reason; return a : Stage τ R α) :=
  (alike_note h hnotice).bind fun _ ↦ (alike_mask h channel reason).bind fun _ ↦ .pure a

theorem alike_need (value : Option α) :
    Alike rel (need value : Stage σ R α) (need value : Stage τ R α) := by
  cases value with
  | none => exact .throw CalibrationError.noData
  | some a => exact .pure a

end Stage

/-! ## Single calls, pauses and writes -/

namespace Sampler

variable {bench : Bench σ R} {request : Request}

/-- The link after one call. -/
def called (bench : Bench σ R) (request : Request) (link : Link σ) : Link σ :=
  { link.enter (.reading request (bench.frontEnd.acquire request link.frontEnd).1) with
    frontEnd := (bench.frontEnd.acquire request link.frontEnd).2
    calls := min (link.calls + 1) maxWord }

/-- The link after a pause. -/
def paused (bench : Bench σ R) (link : Link σ) : Link σ :=
  { link.enter .pause with clock := link.clock.sleep bench.sampling.retryDelayMs }

theorem call_run (link : Link σ) : (call bench request).run link =
    (.ok (bench.frontEnd.acquire request link.frontEnd).1, called bench request link) := rfl

theorem pause_run (link : Link σ) : (pause bench).run link = (.ok (), paused bench link) := rfl

/-- The link after a write. -/
def written (bench : Bench σ R) (device : DeviceKey) (registers : RegisterMap) (link : Link σ) :
    Link σ :=
  { link.enter (.write device registers
      (bench.frontEnd.write device registers link.frontEnd).1) with
    frontEnd := (bench.frontEnd.write device registers link.frontEnd).2 }

theorem writeRegisters_run (device : DeviceKey) (registers : RegisterMap) (link : Link σ) :
    (writeRegisters bench device registers).run link =
      ((bench.frontEnd.write device registers link.frontEnd).1.mapError
        (fun fault ↦ .hardware fault.diagnosis), written bench device registers link) := by
  have hmodify : ∀ {α : Type} (f : Link σ → α × Link σ),
      (modifyGet f : Sampler σ R α).run link = (.ok (f link).1, (f link).2) := fun _ ↦ rfl
  rw [writeRegisters, written, run_bind, hmodify]
  generalize bench.frontEnd.write device registers link.frontEnd = result
  obtain ⟨_ | _, next⟩ := result
  · rfl
  · rfl

theorem journal_called (link : Link σ) : (called bench request link).journal =
    link.journal ++ [.reading request (bench.frontEnd.acquire request link.frontEnd).1] :=
  link.journal_enter _

theorem journal_paused (link : Link σ) : (paused bench link).journal = link.journal ++ [.pause] :=
  link.journal_enter _

end Sampler

end ThresholdTrim
