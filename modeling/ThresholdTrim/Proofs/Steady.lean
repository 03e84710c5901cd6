import ThresholdTrim.Proofs.TwoRuns
import ThresholdTrim.Proofs.Exact

/-!
# Front-ends without memory

A front-end is steady when its answer depends on the request alone. Calls to it may still get lost
on the way (`FrontEnd.withLapses`); as long as fewer are lost in a row than there are attempts, an
acquisition ends with the batch it would have had at once, and all it leaves behind besides are
failed calls and pauses. That is `Sampler.retry_eq_ok`, for any front-end of which each request
brings its batch in the end (`FrontEnd.Recovers`).
-/

namespace ThresholdTrim

open Scalar

variable {σ τ R : Type}

/-- A call that comes to nothing. -/
inductive Lapse
  | fault (error : FrontEndError)
  | emptyBatch

def Lapse.answer : Lapse → Except FrontEndError (List Nat)
  | .fault error => .error error
  | .emptyBatch => .ok []

theorem Lapse.exists_usable_eq (lapse : Lapse) :
    ∃ reason, Sampler.usable lapse.answer = .error reason := by
  cases lapse with
  | fault error => exact ⟨_, rfl⟩
  | emptyBatch => exact ⟨_, rfl⟩

namespace FrontEnd

variable {frontEnd : FrontEnd σ} {request : Request} {batch : List Nat}
  {respond : Request → List Nat}

/-- Whatever was asked before, the answer is the same, and not empty when samples are asked for. -/
structure IsSteady (frontEnd : FrontEnd σ) (respond : Request → List Nat) : Prop where
  answer : ∀ request state, (frontEnd.acquire request state).1 = .ok (respond request)
  ne_nil : ∀ request, request.count ≠ 0 → respond request ≠ []

/-- The same front-end with some calls lost on the way. Calls are numbered from the second
component of the state. -/
def withLapses (frontEnd : FrontEnd σ) (lapses : Nat → Option Lapse) : FrontEnd (σ × Nat) where
  acquire request state :=
    match lapses state.2 with
    | some lapse => (lapse.answer, state.1, state.2 + 1)
    | none =>
      let (answer, next) := frontEnd.acquire request state.1
      (answer, next, state.2 + 1)
  write device registers state :=
    let (answer, next) := frontEnd.write device registers state.1
    (answer, next, state.2)

/-- Answers to the request end with `batch`, after at most `further` failures. -/
inductive AnswersWithin (frontEnd : FrontEnd σ) (request : Request) (batch : List Nat) :
    Nat → σ → Prop
  | now {further : Nat} {state : σ} (hanswer : (frontEnd.acquire request state).1 = .ok batch) :
    AnswersWithin frontEnd request batch further state
  | later {further : Nat} {state : σ} {reason : String}
    (hfault : Sampler.usable (frontEnd.acquire request state).1 = .error reason)
    (rest : AnswersWithin frontEnd request batch further (frontEnd.acquire request state).2) :
    AnswersWithin frontEnd request batch (further + 1) state

/-- Whatever was asked before, a request for samples ends with its own batch. -/
def Recovers (frontEnd : FrontEnd σ) (further : Nat) (respond : Request → List Nat) : Prop :=
  ∀ request, request.count ≠ 0 → respond request ≠ [] ∧
    ∀ state, frontEnd.AnswersWithin request (respond request) further state

theorem IsSteady.recovers (hsteady : frontEnd.IsSteady respond) (further : Nat) :
    frontEnd.Recovers further respond :=
  fun request hcount ↦
    ⟨hsteady.ne_nil request hcount, fun state ↦ .now (hsteady.answer request state)⟩

section

variable {lapses : Nat → Option Lapse} {state : σ} {call : Nat}

theorem acquire_withLapses_of_some {lapse : Lapse} (h : lapses call = some lapse) :
    (frontEnd.withLapses lapses).acquire request (state, call) =
      (lapse.answer, state, call + 1) := by
  simp only [withLapses, h]

theorem acquire_withLapses_of_none (h : lapses call = none) :
    ((frontEnd.withLapses lapses).acquire request (state, call)).1 =
      (frontEnd.acquire request state).1 := by
  simp only [withLapses, h]

/-- The call that is not lost brings the answer; the ones before it are failures. -/
theorem IsSteady.answersWithin_withLapses (hsteady : frontEnd.IsSteady respond) {k further : Nat}
    (hk : lapses (call + k) = none) (hfurther : k ≤ further) :
    (frontEnd.withLapses lapses).AnswersWithin request (respond request) further (state, call) := by
  induction k generalizing call further with
  | zero => exact .now ((acquire_withLapses_of_none hk).trans (hsteady.answer request state))
  | succ k ih =>
    cases hcall : lapses call with
    | none => exact .now ((acquire_withLapses_of_none hcall).trans (hsteady.answer request state))
    | some lapse =>
      obtain ⟨rest, rfl⟩ : ∃ rest, further = rest + 1 := ⟨further - 1, by omega⟩
      obtain ⟨reason, hreason⟩ := lapse.exists_usable_eq
      have hlost : (frontEnd.withLapses lapses).acquire request (state, call) = _ :=
        acquire_withLapses_of_some hcall
      apply AnswersWithin.later
      · rw [hlost]
        exact hreason
      · rw [hlost]
        apply ih _ (by omega)
        rw [Nat.add_assoc, Nat.add_comm 1 k]
        exact hk

/-- Fewer calls are lost in a row than there are attempts. -/
theorem IsSteady.recovers_withLapses {attempts : Nat} (hsteady : frontEnd.IsSteady respond)
    (hlapses : ∀ call, ∃ k < attempts, lapses (call + k) = none) :
    (frontEnd.withLapses lapses).Recovers (attempts - 1) respond := by
  intro request hcount
  refine ⟨hsteady.ne_nil request hcount, fun ⟨state, call⟩ ↦ ?_⟩
  obtain ⟨k, hk, hkept⟩ := hlapses call
  exact hsteady.answersWithin_withLapses hkept (by omega)

end

end FrontEnd

namespace LinearModel

variable [Scalar R] {model : LinearModel R}

/-- The batch a model answers with. -/
def respond (model : LinearModel R) (request : Request) : List Nat :=
  (List.range request.count).map
    (model.sample (model.level request.channel.channel request.setting))

theorem isSteady (hfailing : model.failing = []) : model.frontEnd.IsSteady model.respond where
  answer request _ := by
    rw [frontEnd]
    dsimp only
    rw [acquire, hfailing]
    rfl
  ne_nil request hcount := by
    rw [respond, Ne, List.map_eq_nil_iff, List.range_eq_nil]
    exact hcount

end LinearModel

namespace Exact

/-- Two calls out of three. -/
def lapses (call : Nat) : Option Lapse :=
  match call % 3 with
  | 0 => none
  | 1 => some (.fault .timeout)
  | _ => some .emptyBatch

theorem exists_kept (call : Nat) :
    ∃ k < settings.sampling.attempts, lapses (call + k) = none := by
  refine ⟨(3 - call % 3) % 3, Nat.mod_lt _ (by decide), ?_⟩
  have hkept : (call + (3 - call % 3) % 3) % 3 = 0 := by omega
  rw [lapses, hkept]
  rfl

def lapsingBench : Bench (Unit × Nat) ℚ := ⟨model.frontEnd.withLapses lapses, settings.sampling⟩

end Exact

/-! ## What two runs share -/

/-- Whether an entry tells more than that a call was made in vain, or a pause. -/
def Entry.isEssential : Entry → Bool
  | .reading _ answer => (Sampler.usable answer).isOk
  | .pause => false
  | .write _ _ _ | .masked _ _ | .notice _ => true

namespace Journal

variable {entries later : Journal}

/-- A journal without failed calls and pauses. -/
def essence (entries : Journal) : Journal := entries.filter Entry.isEssential

@[simp] theorem essence_append : essence (entries ++ later) = entries.essence ++ later.essence :=
  List.filter_append ..

end Journal

namespace Link

/-- Since their journals were `base` and `base'`, two links have entered the same, failed calls and
pauses apart. -/
def Together (base base' : Journal) (link : Link σ) (link' : Link τ) : Prop :=
  ∃ told : Journal, link.journal.essence = base.essence ++ told ∧
    link'.journal.essence = base'.essence ++ told

variable {base base' : Journal}

theorem together_refl (link : Link σ) (link' : Link τ) :
    link.Together link.journal link'.journal link' :=
  ⟨[], (List.append_nil _).symm, (List.append_nil _).symm⟩

/-- Two stretches that tell the same. -/
theorem Together.extend {link after : Link σ} {link' after' : Link τ}
    {entries entries' : Journal} (h : link.Together base base' link')
    (hafter : after.journal = link.journal ++ entries)
    (hafter' : after'.journal = link'.journal ++ entries')
    (hsame : entries.essence = entries'.essence) : after.Together base base' after' := by
  obtain ⟨told, htold, htold'⟩ := h
  refine ⟨told ++ entries.essence, ?_, ?_⟩
  · rw [hafter, Journal.essence_append, htold, List.append_assoc]
  · rw [hafter', Journal.essence_append, htold', hsame, List.append_assoc]

theorem lasts_together : Lasts (Together base base' : Link σ → Link τ → Prop) where
  notice _ h := h.extend (Link.journal_enter _ _) (Link.journal_enter _ _) rfl
  masked h := h.extend (Link.journal_enter _ _) (Link.journal_enter _ _) rfl

end Link

/-! ## Acquisitions -/

namespace Sampler

variable {bench : Bench σ R} {request : Request} {batch : List Nat}

theorem usable_of_ne_nil (h : batch ≠ []) : usable (.ok batch) = .ok batch := by
  cases batch with
  | nil => exact absurd rfl h
  | cons => rfl

theorem essence_reading (h : batch ≠ []) :
    Journal.essence [.reading request (.ok batch)] = [.reading request (.ok batch)] := by
  rw [Journal.essence, List.filter_cons_of_pos, List.filter_nil]
  rw [Entry.isEssential, usable_of_ne_nil h]
  rfl

/-- A batch that comes at once is the only thing entered. -/
theorem retry_of_answer (further : Nat) {link : Link σ}
    (hanswer : (bench.frontEnd.acquire request link.frontEnd).1 = .ok batch) (hbatch : batch ≠ []) :
    ((retry bench request further).run link).1 = .ok (.ok batch) ∧
      ∃ entries, ((retry bench request further).run link).2.journal = link.journal ++ entries ∧
        entries.essence = [.reading request (.ok batch)] := by
  have hcalled : (called bench request link).journal =
      link.journal ++ [.reading request (.ok batch)] := hanswer ▸ journal_called link
  cases further with
  | zero | succ further =>
    rw [retry, run_bind, call_run, hanswer]
    dsimp only
    rw [usable_of_ne_nil hbatch]
    exact ⟨rfl, _, hcalled, essence_reading hbatch⟩

/-- The attempts end with the batch, and only the last of them tells anything. -/
theorem retry_eq_ok {further : Nat} {link : Link σ}
    (h : bench.frontEnd.AnswersWithin request batch further link.frontEnd) (hbatch : batch ≠ []) :
    ((retry bench request further).run link).1 = .ok (.ok batch) ∧
      ∃ entries, ((retry bench request further).run link).2.journal = link.journal ++ entries ∧
        entries.essence = [.reading request (.ok batch)] := by
  induction further generalizing link with
  | zero =>
    cases h with
    | now hanswer => exact retry_of_answer 0 hanswer hbatch
  | succ further ih =>
    cases h with
    | now hanswer => exact retry_of_answer _ hanswer hbatch
    | later hfault rest =>
      obtain ⟨hanswer, entries, hjournal, hessence⟩ :=
        @ih (paused bench (called bench request link)) rest
      rw [retry, run_bind, call_run]
      dsimp only
      rw [hfault]
      dsimp only
      rw [run_bind, pause_run]
      refine ⟨hanswer, .reading request (bench.frontEnd.acquire request link.frontEnd).1 ::
        .pause :: entries, ?_, ?_⟩
      · rw [hjournal, journal_paused, journal_called, List.append_assoc, List.append_assoc]
        rfl
      · -- neither the failed call nor the pause counts
        rw [Journal.essence, List.filter_cons_of_neg, List.filter_cons_of_neg Bool.false_ne_true]
        · exact hessence
        · rw [Entry.isEssential, hfault]
          exact nofun

end Sampler

end ThresholdTrim
