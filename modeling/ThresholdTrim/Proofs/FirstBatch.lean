import Mathlib.Logic.Function.Iterate
import ThresholdTrim.Proofs.TwoRuns

/-!
# The first batch with samples

What a front-end answers to one and the same request, asked again and again, is a sequence that the
state it starts in settles (`FrontEnd.answer`). An acquisition reads this sequence up to the first
batch with samples, or up to its last attempt, and does nothing else: the link it leaves is the one
after so many calls with a pause between each two (`Link.AskedFor`).

The attempts are counted down while the sequence goes on, so the induction is on the attempts left,
and each step moves the sequence on by the call that was just made.
-/

namespace ThresholdTrim

variable {σ R : Type}

namespace FrontEnd

variable (frontEnd : FrontEnd σ) (request : Request)

/-- State after a number of calls with the same request. -/
def after (state : σ) : Nat → σ
  | 0 => state
  | calls + 1 => after (frontEnd.acquire request state).2 calls

/-- Answer to the call that is made after a number of calls with the same request. -/
def answer (state : σ) (calls : Nat) : Except FrontEndError (List Nat) :=
  (frontEnd.acquire request (frontEnd.after request state calls)).1

end FrontEnd

namespace Sampler

variable {bench : Bench σ R} {request : Request} {answer : Except FrontEndError (List Nat)}
  {reason : String}

/-! ## Answers -/

/-- Whether an answer is a batch with samples. -/
def hasSamples : Except FrontEndError (List Nat) → Bool
  | .ok batch => !batch.isEmpty
  | .error _ => false

/-- An answer without samples, with the text for it. -/
inductive Fruitless : Except FrontEndError (List Nat) → String → Prop
  | emptyBatch : Fruitless (.ok []) "empty batch"
  | fault (error : FrontEndError) : Fruitless (.error error) error.diagnosis.message

theorem usable_eq_error_iff : usable answer = .error reason ↔ Fruitless answer reason := by
  constructor
  · intro h
    match answer, h with
    | .ok [], h => exact Except.error.inj h ▸ .emptyBatch
    | .error error, h => exact Except.error.inj h ▸ .fault error
  · rintro (_ | _)
    · rfl
    · rfl

theorem exists_batch_of_hasSamples (h : hasSamples answer = true) :
    ∃ batch, answer = .ok batch ∧ batch ≠ [] ∧ usable answer = .ok batch := by
  match answer, h with
  | .ok (sample :: rest), _ => exact ⟨sample :: rest, rfl, List.cons_ne_nil _ _, rfl⟩

theorem exists_fruitless (h : hasSamples answer = false) : ∃ reason, Fruitless answer reason := by
  match answer, h with
  | .ok [], _ => exact ⟨_, .emptyBatch⟩
  | .error error, _ => exact ⟨_, .fault error⟩

/-! ## Calls with pauses between them -/

/-- The link after `further + 1` calls with the same request and a pause between each two. -/
def askedAgain (bench : Bench σ R) (request : Request) : Nat → Link σ → Link σ
  | 0, link => called bench request link
  | further + 1, link => askedAgain bench request further (paused bench (called bench request link))

end Sampler

/-- A link after a number of calls with the same request, a pause between each two, and the notices
given at the end. -/
structure Link.AskedFor (bench : Bench σ R) (request : Request) (times : Nat)
    (notices : List Notice) (link after : Link σ) : Prop where
  frontEnd : after.frontEnd = bench.frontEnd.after request link.frontEnd times
  calls : after.calls = min (link.calls + times) maxWord
  clock : after.clock = (fun clock ↦ clock.sleep bench.sampling.retryDelayMs)^[times - 1] link.clock
  journal : after.journal = link.journal ++ ((List.range times).map fun call ↦
      .reading request (bench.frontEnd.answer request link.frontEnd call)).intersperse .pause ++
    notices.map .notice

theorem Link.AskedFor.notice {bench : Bench σ R} {request : Request} {times : Nat}
    {link after : Link σ} (h : link.AskedFor bench request times [] after) (notice : Notice) :
    link.AskedFor bench request times [notice] (after.enter (.notice notice)) where
  frontEnd := h.frontEnd
  calls := h.calls
  clock := h.clock
  journal := by
    rw [Link.journal_enter, h.journal, List.map_nil, List.append_nil]
    rfl

namespace Sampler

variable {bench : Bench σ R} {request : Request} {link : Link σ}

theorem intersperse_map_range {α : Type} (sep : α) (f : Nat → α) (n : Nat) :
    ((List.range (n + 2)).map f).intersperse sep =
      f 0 :: sep :: ((List.range (n + 1)).map fun i ↦ f (i + 1)).intersperse sep := by
  rw [List.range_succ_eq_map, List.map_cons, List.map_map, List.range_succ_eq_map, List.map_cons,
    List.map_cons]
  exact List.intersperse_cons_cons

theorem askedFor_askedAgain (further : Nat) :
    link.AskedFor bench request (further + 1) [] (askedAgain bench request further link) := by
  induction further generalizing link with
  | zero => exact ⟨rfl, rfl, rfl, (journal_called link).trans (List.append_nil _).symm⟩
  | succ further ih =>
    have hrest := @ih (paused bench (called bench request link))
    refine ⟨hrest.frontEnd, ?_, hrest.clock, ?_⟩
    · have hcalls : (paused bench (called bench request link)).calls =
          min (link.calls + 1) maxWord := rfl
      rw [askedAgain, hrest.calls, hcalls]
      omega
    · -- the first call and its pause come before those that are left
      rw [askedAgain, hrest.journal, journal_paused, journal_called, intersperse_map_range,
        List.append_assoc link.journal, List.append_assoc link.journal]
      rfl

/-! ## Attempts -/

/-- The attempts go up to the first answer with samples, or up to the last attempt. -/
theorem exists_retry_run (bench : Bench σ R) (request : Request) (further : Nat) (link : Link σ) :
    ∃ call ≤ further,
      (∀ earlier < call, hasSamples (bench.frontEnd.answer request link.frontEnd earlier) = false) ∧
      (hasSamples (bench.frontEnd.answer request link.frontEnd call) = true ∨ call = further) ∧
      (retry bench request further).run link =
        (.ok (usable (bench.frontEnd.answer request link.frontEnd call)),
          askedAgain bench request call link) := by
  induction further generalizing link with
  | zero =>
    refine ⟨0, Nat.le_refl 0, nofun, .inr rfl, ?_⟩
    rw [retry, run_bind, call_run]
    rfl
  | succ further ih =>
    rw [retry, run_bind, call_run]
    dsimp only
    cases hfirst : hasSamples (bench.frontEnd.acquire request link.frontEnd).1 with
    | true =>
      obtain ⟨batch, hbatch, _, husable⟩ := exists_batch_of_hasSamples hfirst
      refine ⟨0, Nat.zero_le _, nofun, .inl hfirst, ?_⟩
      rw [husable]
      exact congrArg (fun result ↦ (Except.ok result, _)) husable.symm
    | false =>
      obtain ⟨reason, hreason⟩ := exists_fruitless hfirst
      obtain ⟨call, hcall, hearlier, hlast, hrun⟩ := ih (paused bench (called bench request link))
      refine ⟨call + 1, Nat.succ_le_succ hcall, ?_, ?_, ?_⟩
      · rintro (_ | earlier) hlt
        · exact hfirst
        · exact hearlier earlier (Nat.lt_of_succ_lt_succ hlt)
      · exact hlast.imp_right (congrArg Nat.succ)
      · rw [usable_eq_error_iff.mpr hreason]
        dsimp only
        rw [run_bind, pause_run]
        exact hrun

section

variable {after : Link σ} {batch : List Nat} {reason : String}

theorem acquire_run_of_batch
    (h : (retry bench request (bench.sampling.attempts - 1)).run link = (.ok (.ok batch), after)) :
    (acquire bench request).run link = (.ok batch,
      if batch.length = request.count then after else after.enter (.notice .partialBatch)) := by
  rw [acquire, run_bind, h]
  dsimp only
  by_cases hlength : batch.length = request.count
  · rw [if_neg (not_not_intro hlength), if_pos hlength]
    rfl
  · rw [if_pos hlength, if_neg hlength]
    rfl

theorem acquire_run_of_failure
    (h : (retry bench request (bench.sampling.attempts - 1)).run link =
      (.ok (.error reason), after)) :
    (acquire bench request).run link =
      (.error (.sampling request.channel bench.sampling.attempts reason),
        after.enter (.notice .givingUpOnChannel)) := by
  rw [acquire, run_bind, h]
  rfl

end

/-- An acquisition takes the first batch with samples, short or not, when it comes within the
attempts, and gives up after the last attempt otherwise. -/
theorem acquire_takes_first_batch (bench : Bench σ R) (request : Request) (link : Link σ) :
    let answer := bench.frontEnd.answer request link.frontEnd
    let attempts := max bench.sampling.maxAttempts 1
    let run := (acquire bench request).run link
    match (List.range attempts).find? fun call ↦ hasSamples (answer call) with
    | some call => ∃ batch, answer call = .ok batch ∧ batch ≠ [] ∧ run.1 = .ok batch ∧
        link.AskedFor bench request (call + 1)
          (if batch.length = request.count then [] else [.partialBatch]) run.2
    | none => ∃ reason, Fruitless (answer (attempts - 1)) reason ∧
        run.1 = .error (.sampling request.channel attempts reason) ∧
        link.AskedFor bench request attempts [.givingUpOnChannel] run.2 := by
  intro answer attempts run
  have hattempts : attempts - 1 + 1 = attempts := Nat.sub_add_cancel (Nat.le_max_right _ _)
  obtain ⟨call, hcall, hearlier, hlast, hretry⟩ :=
    exists_retry_run bench request (attempts - 1) link
  have hasked : link.AskedFor bench request (call + 1) [] (askedAgain bench request call link) :=
    askedFor_askedAgain call
  have hnone : ∀ earlier < call, (!hasSamples (answer earlier)) = true :=
    fun earlier hlt ↦ congrArg not (hearlier earlier hlt)
  cases hbatch : hasSamples (answer call) with
  | true =>
    obtain ⟨batch, hanswer, hne, husable⟩ := exists_batch_of_hasSamples hbatch
    have hrun : run = _ := acquire_run_of_batch (husable ▸ hretry)
    rw [List.find?_range_eq_some.mpr ⟨hbatch, List.mem_range.mpr (by omega), hnone⟩, hrun]
    refine ⟨batch, hanswer, hne, rfl, ?_⟩
    split
    · exact hasked
    · exact hasked.notice _
  | false =>
    obtain rfl := hlast.resolve_left (Bool.eq_false_iff.mp hbatch)
    obtain ⟨reason, hreason⟩ := exists_fruitless hbatch
    have hrun : run = _ := acquire_run_of_failure (usable_eq_error_iff.mpr hreason ▸ hretry)
    rw [hattempts] at hasked
    rw [List.find?_range_eq_none.mpr, hrun]
    · exact ⟨reason, hreason, rfl, hasked.notice _⟩
    · intro earlier hlt
      rcases Nat.lt_or_eq_of_le (Nat.le_sub_one_of_lt hlt) with hlt | rfl
      · exact hnone earlier hlt
      · exact congrArg not hbatch

end Sampler

end ThresholdTrim
