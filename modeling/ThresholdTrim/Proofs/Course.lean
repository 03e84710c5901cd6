import ThresholdTrim.Stage
import ThresholdTrim.Proofs.Journal

/-!
# What a stage does

Nothing is known about a front-end, so what can be said about a stage is said for every link: from
a context it gives some answer, adds some entries to the journal and leaves some context behind,
and these are related. `Stage.Ensures` and `Sampler.Ensures` say so, and the rules below take a
stage apart along its binds and loops, once for each stage.

A loop over channels comes out as a `Chain` of its steps. What every step keeps, the chain keeps:
`Context.Follows` is what all stages have in common, failed ones included. They stay within a
remit, the mask afterwards is the one the journal tells, and the device is the same.
-/

namespace ThresholdTrim

variable {σ R α β γ κ : Type}

/-- A bind of computations that may fail over a state: a failure of the first is the outcome. -/
theorem run_bind {ε σ α β : Type} (first : ExceptT ε (StateM σ) α)
    (next : α → ExceptT ε (StateM σ) β) (s : σ) :
    (first >>= next).run s =
      match first.run s with
      | (.ok a, s) => (next a).run s
      | (.error cause, s) => (.error cause, s) := by
  change (ExceptT.bindCont next (first.run s).1) (first.run s).2 = _
  rcases first.run s with ⟨_ | _, _⟩ <;> rfl

/-- A bind fails when the first computation does, or the second one where the first one left off. -/
theorem run_bind_eq_error_iff {ε σ α β : Type} {first : ExceptT ε (StateM σ) α}
    {next : α → ExceptT ε (StateM σ) β} {s : σ} {cause : ε} :
    ((first >>= next).run s).1 = .error cause ↔
      (first.run s).1 = .error cause ∨
        ∃ a s', first.run s = (.ok a, s') ∧ ((next a).run s').1 = .error cause := by
  rw [run_bind]
  rcases first.run s with ⟨_ | a, s'⟩
  · dsimp only
    constructor
    · intro h
      obtain rfl := Except.error.inj h
      exact .inl rfl
    · rintro (h | ⟨_, _, hfirst, _⟩)
      · obtain rfl := Except.error.inj h
        rfl
      · cases hfirst
  · dsimp only
    constructor
    · intro h
      exact .inr ⟨a, s', rfl, h⟩
    · rintro (h | ⟨_, _, hfirst, h⟩)
      · cases h
      · cases hfirst
        exact h

namespace Stage

theorem context_run (run : Run σ R) : (context : Stage σ R _).run run = (.ok run.context, run) :=
  rfl

theorem sample_run (sampler : Sampler σ R α) (run : Run σ R) :
    (sample sampler).run run =
      ((sampler.run run.link).1, ⟨(sampler.run run.link).2, run.context⟩) := rfl

theorem attempt_run (stage : Stage σ R α) (run : Run σ R) :
    (attempt stage).run run = (.ok (stage.run run).1, (stage.run run).2) := rfl

end Stage

theorem Link.journal_enter (link : Link σ) (entry : Entry) :
    (link.enter entry).journal = link.journal ++ [entry] :=
  List.reverse_cons

/-! ## Samplers -/

/-- Whether the front-end has a state in which it gives `answer` to the request. -/
def Bench.Answers (bench : Bench σ R) (request : Request)
    (answer : Except FrontEndError (List Nat)) : Prop :=
  ∃ state, (bench.frontEnd.acquire request state).1 = answer

namespace Sampler

/-- From every link, the answer and the entries added to the journal are related. -/
def Ensures (sampler : Sampler σ R α)
    (Q : Except (CalibrationError R) α → Journal → Prop) : Prop :=
  ∀ link : Link σ, ∃ entries,
    (sampler.run link).2.journal = link.journal ++ entries ∧ Q (sampler.run link).1 entries

variable {sampler : Sampler σ R α} {next : α → Sampler σ R β} {bench : Bench σ R}
  {Q Q' : Except (CalibrationError R) α → Journal → Prop}

theorem Ensures.mono (h : sampler.Ensures Q)
    (hQ : ∀ answer entries, Q answer entries → Q' answer entries) : sampler.Ensures Q' := by
  intro link
  obtain ⟨entries, hjournal, hentries⟩ := h link
  exact ⟨entries, hjournal, hQ _ _ hentries⟩

theorem ensures_pure {a : α} (h : Q (.ok a) []) : (pure a : Sampler σ R α).Ensures Q :=
  fun _ ↦ ⟨[], (List.append_nil _).symm, h⟩

theorem ensures_throw {cause : CalibrationError R} (h : Q (.error cause) []) :
    (throw cause : Sampler σ R α).Ensures Q :=
  fun _ ↦ ⟨[], (List.append_nil _).symm, h⟩

theorem ensures_bind {Q : Except (CalibrationError R) β → Journal → Prop}
    (h : sampler.Ensures fun answer entries ↦
      match answer with
      | .ok a => (next a).Ensures fun answer later ↦ Q answer (entries ++ later)
      | .error cause => Q (.error cause) entries) : (sampler >>= next).Ensures Q := by
  intro link
  obtain ⟨entries, hjournal, hfirst⟩ := h link
  rw [run_bind]
  rcases hrun : sampler.run link with ⟨_ | a, link₁⟩
  · rw [hrun] at hjournal hfirst
    exact ⟨entries, hjournal, hfirst⟩
  · rw [hrun] at hjournal hfirst
    obtain ⟨later, hlater, hnext⟩ := hfirst link₁
    exact ⟨entries ++ later, by rw [hlater, hjournal, List.append_assoc], hnext⟩

theorem ensures_note {notice : Notice} {Q : Except (CalibrationError R) Unit → Journal → Prop}
    (h : Q (.ok ()) [.notice notice]) : (note notice : Sampler σ R Unit).Ensures Q :=
  fun link ↦ ⟨[.notice notice], link.journal_enter _, h⟩

theorem ensures_pause {Q : Except (CalibrationError R) Unit → Journal → Prop}
    (h : Q (.ok ()) [.pause]) : (pause bench).Ensures Q :=
  fun link ↦ ⟨[.pause], link.journal_enter _, h⟩

theorem ensures_call {request : Request}
    {Q : Except (CalibrationError R) (Except FrontEndError (List Nat)) → Journal → Prop}
    (h : ∀ answer, bench.Answers request answer → Q (.ok answer) [.reading request answer]) :
    (call bench request).Ensures Q :=
  fun link ↦ ⟨[.reading request _], link.journal_enter _, h _ ⟨link.frontEnd, rfl⟩⟩

end Sampler

/-! ## Stages -/

namespace Stage

/-- From `context` and every link, the answer, the entries added to the journal and the context
left behind are related. -/
def Ensures (stage : Stage σ R α) (context : Context R)
    (Q : Except (CalibrationError R) α → Journal → Context R → Prop) : Prop :=
  ∀ link : Link σ, ∃ entries,
    (stage.run ⟨link, context⟩).2.link.journal = link.journal ++ entries ∧
      Q (stage.run ⟨link, context⟩).1 entries (stage.run ⟨link, context⟩).2.context

/-- `Ensures` for a stage that does not fail. -/
def Yields (stage : Stage σ R α) (context : Context R)
    (Q : α → Journal → Context R → Prop) : Prop :=
  stage.Ensures context fun answer entries after ↦ ∃ a, answer = .ok a ∧ Q a entries after

variable {stage : Stage σ R α} {next : α → Stage σ R β} {context : Context R}
  {Q Q' : Except (CalibrationError R) α → Journal → Context R → Prop}

theorem Ensures.mono (h : stage.Ensures context Q)
    (hQ : ∀ answer entries after, Q answer entries after → Q' answer entries after) :
    stage.Ensures context Q' := by
  intro link
  obtain ⟨entries, hjournal, hentries⟩ := h link
  exact ⟨entries, hjournal, hQ _ _ _ hentries⟩

theorem ensures_pure {a : α} (h : Q (.ok a) [] context) :
    (pure a : Stage σ R α).Ensures context Q :=
  fun _ ↦ ⟨[], (List.append_nil _).symm, h⟩

theorem ensures_throw {cause : CalibrationError R} (h : Q (.error cause) [] context) :
    (throw cause : Stage σ R α).Ensures context Q :=
  fun _ ↦ ⟨[], (List.append_nil _).symm, h⟩

theorem ensures_bind {Q : Except (CalibrationError R) β → Journal → Context R → Prop}
    (h : stage.Ensures context fun answer entries after ↦
      match answer with
      | .ok a => (next a).Ensures after fun answer later after ↦ Q answer (entries ++ later) after
      | .error cause => Q (.error cause) entries after) : (stage >>= next).Ensures context Q := by
  intro link
  obtain ⟨entries, hjournal, hfirst⟩ := h link
  rw [run_bind]
  rcases hrun : stage.run ⟨link, context⟩ with ⟨_ | a, ⟨link₁, context₁⟩⟩
  · rw [hrun] at hjournal hfirst
    exact ⟨entries, hjournal, hfirst⟩
  · rw [hrun] at hjournal hfirst
    obtain ⟨later, hlater, hnext⟩ := hfirst link₁
    exact ⟨entries ++ later, by rw [hlater, hjournal, List.append_assoc], hnext⟩

theorem ensures_context {Q : Except (CalibrationError R) (Context R) → Journal → Context R → Prop}
    (h : Q (.ok context) [] context) : (Stage.context : Stage σ R _).Ensures context Q :=
  fun _ ↦ ⟨[], (List.append_nil _).symm, h⟩

theorem ensures_update {f : Context R → Context R}
    {Q : Except (CalibrationError R) Unit → Journal → Context R → Prop}
    (h : Q (.ok ()) [] (f context)) : (update f : Stage σ R Unit).Ensures context Q :=
  fun _ ↦ ⟨[], (List.append_nil _).symm, h⟩

theorem ensures_sample {sampler : Sampler σ R α}
    (h : sampler.Ensures fun answer entries ↦ Q answer entries context) :
    (sample sampler).Ensures context Q :=
  fun link ↦ h link

theorem ensures_attempt
    {Q : Except (CalibrationError R) (Except (CalibrationError R) α) → Journal → Context R → Prop}
    (h : stage.Ensures context fun answer entries after ↦ Q (.ok answer) entries after) :
    (attempt stage).Ensures context Q :=
  fun link ↦ h link

theorem ensures_note {notice : Notice}
    {Q : Except (CalibrationError R) Unit → Journal → Context R → Prop}
    (h : Q (.ok ()) [.notice notice] context) :
    (note notice : Stage σ R Unit).Ensures context Q :=
  ensures_sample (Sampler.ensures_note h)

/-- A notice that is given under a condition, and what comes after it in any case. -/
theorem ensures_note_if {condition : Prop} [Decidable condition] {notice : Notice}
    (h : stage.Ensures context fun answer later after ↦
      Q answer ((if condition then [.notice notice] else []) ++ later) after) :
    (if condition then do note notice; stage else stage).Ensures context Q := by
  by_cases hcondition : condition
  · rw [if_pos hcondition] at h ⊢
    exact ensures_bind (ensures_note h)
  · rw [if_neg hcondition] at h ⊢
    exact h

end Stage

/-- The context under another mask. -/
def Context.withMask (context : Context R) (mask : ChannelMask) : Context R :=
  { context with mask }

namespace Stage

variable {context : Context R} {channel : Nat} {reason : MaskReason}

theorem ensures_mask {Q : Except (CalibrationError R) Unit → Journal → Context R → Prop}
    (h : Q (.ok ()) [.masked channel reason]
      (context.withMask (context.mask.mask channel reason))) :
    (mask channel reason : Stage σ R Unit).Ensures context Q :=
  fun link ↦ ⟨[.masked channel reason], link.journal_enter _, h⟩

theorem ensures_need {value : Option α}
    {Q : Except (CalibrationError R) α → Journal → Context R → Prop}
    (hnone : value = none → Q (.error .noData) [] context)
    (hsome : ∀ a, value = some a → Q (.ok a) [] context) :
    (need value : Stage σ R α).Ensures context Q := by
  cases value with
  | none => exact ensures_throw (hnone rfl)
  | some a => exact ensures_pure (hsome a rfl)

end Stage

/-! ## Chains -/

/-- Steps taken one after the other for the members of a list, with what each gives, the entries
of all, and the states before and after. -/
inductive Chain (step : β → κ → γ → Journal → κ → Prop) :
    List β → κ → List γ → Journal → κ → Prop
  | nil {k : κ} : Chain step [] k [] [] k
  | cons {x : β} {xs : List β} {y : γ} {ys : List γ} {entries later : Journal} {k k₁ k₂ : κ}
      (head : step x k y entries k₁) (tail : Chain step xs k₁ ys later k₂) :
      Chain step (x :: xs) k (y :: ys) (entries ++ later) k₂

namespace Chain

variable {step : β → κ → γ → Journal → κ → Prop} {xs : List β} {ys : List γ} {entries : Journal}
  {k k' : κ}

theorem length_eq (h : Chain step xs k ys entries k') : ys.length = xs.length := by
  induction h with
  | nil => rfl
  | cons _ _ ih => rw [List.length_cons, List.length_cons, ih]

theorem exists_getElem? {i : Nat} {y : γ} (h : Chain step xs k ys entries k')
    (hy : ys[i]? = some y) : ∃ x, xs[i]? = some x := by
  have hi := (List.getElem?_eq_some_iff.mp hy).1
  rw [h.length_eq] at hi
  exact ⟨xs[i], List.getElem?_eq_getElem hi⟩

theorem lt_of_getElem? {step : Nat → κ → γ → Journal → κ → Prop} {channels i : Nat} {y : γ}
    (h : Chain step (List.range channels) k ys entries k') (hy : ys[i]? = some y) :
    i < channels := by
  obtain ⟨x, hx⟩ := h.exists_getElem? hy
  simpa using (List.getElem?_eq_some_iff.mp hx).1

/-- The step for one member of the list, between the steps before it and those after it. -/
theorem split {i : Nat} {x : β} (h : Chain step xs k ys entries k') (hx : xs[i]? = some x) :
    ∃ y before own after k₁ k₂, ys[i]? = some y ∧ entries = before ++ own ++ after ∧
      Chain step (xs.take i) k (ys.take i) before k₁ ∧ step x k₁ y own k₂ ∧
      Chain step (xs.drop (i + 1)) k₂ (ys.drop (i + 1)) after k' := by
  induction h generalizing i with
  | nil => simp at hx
  | @cons x₀ xs y₀ ys first later k k₁ k₂ head tail ih =>
    cases i with
    | zero =>
      obtain rfl : x₀ = x := by simpa using hx
      exact ⟨y₀, [], first, later, k, k₁, rfl, rfl, .nil, head, tail⟩
    | succ i =>
      obtain ⟨y, before, own, after, l₁, l₂, hy, rfl, hbefore, hown, hafter⟩ :=
        ih (by simpa using hx)
      exact ⟨y, first ++ before, own, after, l₁, l₂, by simpa using hy, by simp,
        .cons head hbefore, hown, hafter⟩

/-- What every step preserves holds after the chain. -/
theorem preserves {P : κ → Prop} (h : Chain step xs k ys entries k')
    (hstep : ∀ x ∈ xs, ∀ k y entries k', step x k y entries k' → P k → P k') (hk : P k) : P k' := by
  induction h with
  | nil => exact hk
  | cons head _ ih =>
    exact ih (fun x hx ↦ hstep x (List.mem_cons_of_mem _ hx))
      (hstep _ List.mem_cons_self _ _ _ _ head hk)

end Chain

namespace Stage

variable {context : Context R}

theorem yields_mapM {step : β → Context R → γ → Journal → Context R → Prop}
    {f : β → Stage σ R γ} (hf : ∀ x context, (f x).Yields context (step x context)) (xs : List β) :
    (xs.mapM f).Yields context fun ys entries after ↦ Chain step xs context ys entries after := by
  induction xs generalizing context with
  | nil => exact ensures_pure ⟨[], rfl, .nil⟩
  | cons x xs ih =>
    rw [List.mapM_cons]
    refine ensures_bind ((hf x context).mono ?_)
    rintro _ entries after ⟨y, rfl, hstep⟩
    refine ensures_bind (ih.mono ?_)
    rintro _ later last ⟨ys, rfl, hchain⟩
    refine ensures_pure ⟨y :: ys, rfl, ?_⟩
    rw [List.append_nil]
    exact .cons hstep hchain

theorem yields_forM {step : β → Context R → Unit → Journal → Context R → Prop}
    {f : β → Stage σ R Unit} (hf : ∀ x context, (f x).Yields context (step x context))
    (xs : List β) :
    (xs.forM f).Yields context fun _ entries after ↦
      ∃ units, Chain step xs context units entries after := by
  induction xs generalizing context with
  | nil => exact ensures_pure ⟨(), rfl, [], .nil⟩
  | cons x xs ih =>
    refine ensures_bind ((hf x context).mono ?_)
    rintro _ entries after ⟨y, rfl, hstep⟩
    refine ih.mono ?_
    rintro _ later last ⟨y, rfl, units, hchain⟩
    exact ⟨(), rfl, _, .cons hstep hchain⟩

/-- A fold passes its value along with the context. -/
theorem yields_foldlM {step : β → Context R × α → Unit → Journal → Context R × α → Prop}
    {f : α → β → Stage σ R α}
    (hf : ∀ a x context, (f a x).Yields context fun a' entries after ↦
      step x (context, a) () entries (after, a')) (xs : List β) (a : α) :
    (xs.foldlM f a).Yields context fun a' entries after ↦
      ∃ units, Chain step xs (context, a) units entries (after, a') := by
  induction xs generalizing context a with
  | nil => exact ensures_pure ⟨a, rfl, [], .nil⟩
  | cons x xs ih =>
    rw [List.foldlM_cons]
    refine ensures_bind ((hf a x context).mono ?_)
    rintro _ entries after ⟨a₁, rfl, hstep⟩
    refine (ih a₁).mono ?_
    rintro _ later last ⟨a₂, rfl, units, hchain⟩
    exact ⟨a₂, rfl, _, .cons hstep hchain⟩

end Stage

/-! ## What all stages keep -/

namespace Context

/-- The mask has a place for every channel of the device. -/
def Fits (context : Context R) : Prop := context.mask.reasons.length = context.spec.channels

/-- `entries` stay within the remit, and lead from `context` to `after` as far as the mask is
concerned. -/
structure Follows (context : Context R) (remit : Remit) (entries : Journal) (after : Context R) :
    Prop where
  within : Journal.Within context.spec remit context.mask entries
  mask : after.mask = context.mask.replay entries
  spec : after.spec = context.spec
  thdacMax : after.thdacMax = context.thdacMax
  trimMid : after.trimMid = context.trimMid

variable {context after last : Context R} {remit : Remit} {entries later : Journal}

theorem Follows.refl : context.Follows remit [] context := ⟨trivial, rfl, rfl, rfl, rfl⟩

theorem Follows.trans (h : context.Follows remit entries after)
    (hlater : after.Follows remit later last) : context.Follows remit (entries ++ later) last where
  within := by
    rw [Journal.within_append, ← h.mask, ← h.spec]
    exact ⟨h.spec ▸ h.within, hlater.within⟩
  mask := by rw [hlater.mask, h.mask, ChannelMask.replay_append]
  spec := hlater.spec.trans h.spec
  thdacMax := hlater.thdacMax.trans h.thdacMax
  trimMid := hlater.trimMid.trans h.trimMid

theorem Follows.fits (h : context.Follows remit entries after) (hfits : context.Fits) :
    after.Fits := by
  rw [Fits, h.mask, ChannelMask.length_reasons_replay, h.spec]
  exact hfits

/-- Filling in records does not interfere. -/
theorem Follows.filled {filled : Context R} (h : context.Follows remit entries after)
    (hmask : filled.mask = after.mask) (hspec : filled.spec = after.spec)
    (hthdacMax : filled.thdacMax = after.thdacMax) (htrimMid : filled.trimMid = after.trimMid) :
    context.Follows remit entries filled :=
  ⟨h.within, hmask.trans h.mask, hspec.trans h.spec, hthdacMax.trans h.thdacMax,
    htrimMid.trans h.trimMid⟩

/-- Taking a channel out of use. -/
theorem follows_masked {channel : Nat} {reason : MaskReason}
    (hreason : remit.masking channel reason) :
    context.Follows remit [.masked channel reason]
      (context.withMask (context.mask.mask channel reason)) :=
  ⟨⟨hreason, trivial⟩, rfl, rfl, rfl, rfl⟩

theorem follows_notices (notices : List Notice) :
    context.Follows remit (notices.map .notice) context := by
  refine ⟨Journal.within_notices notices, ?_, rfl, rfl, rfl⟩
  rw [ChannelMask.replay_of_maskings_eq_nil (Journal.maskings_notices notices)]

theorem follows_notice (notice : Notice) : context.Follows remit [.notice notice] context :=
  follows_notices [notice]

theorem follows_pause : context.Follows remit [.pause] context :=
  ⟨⟨trivial, trivial⟩, rfl, rfl, rfl, rfl⟩

/-- The context after a stretch of journal in which nothing but the mask was filled in. -/
def replay (context : Context R) (entries : Journal) : Context R :=
  context.withMask (context.mask.replay entries)

theorem replay_append : context.replay (entries ++ later) = (context.replay entries).replay later :=
  congrArg context.withMask ChannelMask.replay_append

theorem replay_of_maskings_eq_nil (h : entries.maskings = []) : context.replay entries = context :=
  congrArg context.withMask (ChannelMask.replay_of_maskings_eq_nil h)

theorem length_reasons_replay :
    (context.replay entries).mask.reasons.length = context.mask.reasons.length :=
  ChannelMask.length_reasons_replay

theorem fits_replay (hfits : context.Fits) : (context.replay entries).Fits :=
  length_reasons_replay.trans hfits

theorem follows_replay (h : Journal.Within context.spec remit context.mask entries) :
    context.Follows remit entries (context.replay entries) :=
  ⟨h, rfl, rfl, rfl, rfl⟩

/-- A device given up on is programmed with the largest threshold and all channels out of use. -/
theorem registers_fail {cause : CalibrationError R} (hfits : context.Fits) :
    (context.fail cause).registers = ⟨context.thdacMax, List.replicate context.spec.channels 0,
      List.replicate context.spec.channels true⟩ := by
  have htrims : (List.range context.spec.channels).map (context.fail cause).channelTrim =
      List.replicate context.spec.channels 0 := by
    rw [List.eq_replicate_iff, List.length_map, List.length_range]
    refine ⟨rfl, fun trim hmem ↦ ?_⟩
    obtain ⟨channel, hchannel, rfl⟩ := List.mem_map.mp hmem
    rw [channelTrim, if_pos]
    apply ChannelMask.isMasked_maskAll
    rw [hfits]
    exact List.mem_range.mp hchannel
  have hflags : (context.mask.maskAll .deviceFailed).flags =
      List.replicate context.spec.channels true := by
    rw [List.eq_replicate_iff, ChannelMask.flags, List.length_map,
      ChannelMask.length_reasons_maskAll]
    refine ⟨hfits, fun flag hmem ↦ ?_⟩
    rw [ChannelMask.maskAll, List.map_map, List.mem_map] at hmem
    obtain ⟨old, _, rfl⟩ := hmem
    cases old <;> rfl
  rw [registers, RegisterMap.mk.injEq]
  exact ⟨rfl, htrims, hflags⟩

end Context

/-- A chain of steps each of which follows, as far as the steps before it did, follows. -/
theorem Chain.follows {step : β → κ → γ → Journal → κ → Prop} {remit : Remit}
    (view : κ → Context R) {xs : List β} {ys : List γ} {entries : Journal} {k k' : κ}
    (h : Chain step xs k ys entries k')
    (hstep : ∀ x ∈ xs, ∀ before k₁ y own k₂, (view k).Follows remit before (view k₁) →
      step x k₁ y own k₂ → (view k₁).Follows remit own (view k₂)) :
    (view k).Follows remit entries (view k') := by
  induction h with
  | nil => exact .refl
  | cons head tail ih =>
    have hhead := hstep _ List.mem_cons_self _ _ _ _ _ .refl head
    refine hhead.trans (ih fun x hx before k₁ y own k₂ hbefore ↦ ?_)
    exact hstep x (List.mem_cons_of_mem _ hx) _ _ _ _ _ (hhead.trans hbefore)

/-- A chain of steps that fill in nothing but the mask fills in nothing but the mask. -/
theorem Chain.replay {step : β → κ → γ → Journal → κ → Prop} (view : κ → Context R) {xs : List β}
    {ys : List γ} {entries : Journal} {k k' : κ} (h : Chain step xs k ys entries k')
    (hstep : ∀ x k y entries k', step x k y entries k' → view k' = (view k).replay entries) :
    view k' = (view k).replay entries := by
  induction h with
  | nil => rfl
  | cons head _ ih => rw [ih, hstep _ _ _ _ _ head, Context.replay_append]

/-! ## Loops over channels -/

/-- Steps that take one channel each: what they enter concerns that channel alone. -/
def TakesOne (view : κ → Context R) (key : β → Nat) (step : β → κ → γ → Journal → κ → Prop) :
    Prop :=
  ∀ ⦃x k y entries k'⦄, step x k y entries k' →
    entries.Concerns (key x) ∧ (view k').mask = (view k).mask.replay entries

namespace Chain

variable {step : β → κ → γ → Journal → κ → Prop} {view : κ → Context R} {key : β → Nat}
  {xs : List β} {ys : List γ} {entries : Journal} {k k' : κ}

/-- A channel none of the steps takes stays as it was. -/
theorem reason_eq (h : Chain step xs k ys entries k') (hone : TakesOne view key step)
    {channel : Nat}
    (hchannel : ∀ x ∈ xs, channel ≠ key x) :
    (view k').mask.reason channel = (view k).mask.reason channel := by
  induction h with
  | nil => rfl
  | cons head _ ih =>
    obtain ⟨hconcerns, hmask⟩ := hone head
    rw [ih fun x hx ↦ hchannel x (List.mem_cons_of_mem _ hx), hmask,
      hconcerns.reason_replay (hchannel _ List.mem_cons_self)]

/-- A channel none of the steps takes is not asked for. -/
theorem requests_ne (h : Chain step xs k ys entries k') (hone : TakesOne view key step)
    {channel : Nat} (hchannel : ∀ x ∈ xs, channel ≠ key x) :
    ∀ request ∈ entries.requests, request.channel.channel ≠ channel := by
  induction h with
  | nil => exact fun _ hmem ↦ nomatch hmem
  | cons head _ ih =>
    intro request hmem
    rw [Journal.requests_append, List.mem_append] at hmem
    rcases hmem with hmem | hmem
    · obtain ⟨answer, hmem⟩ := Journal.mem_requests.mp hmem
      have hkey : request.channel.channel = _ := (hone head).1 _ hmem
      exact fun heq ↦ hchannel _ List.mem_cons_self (heq.symm.trans hkey)
    · exact ih (fun x hx ↦ hchannel x (List.mem_cons_of_mem _ hx)) request hmem

/-- When it is its turn, each channel is still as it was before the loop. -/
theorem follows_each {remit : Remit} (h : Chain step xs k ys entries k')
    (hone : TakesOne view key step) (hnodup : (xs.map key).Nodup)
    (hstep : ∀ x ∈ xs, ∀ before k₁ y own k₂, (view k).Follows remit before (view k₁) →
      (view k₁).mask.reason (key x) = (view k).mask.reason (key x) → step x k₁ y own k₂ →
      (view k₁).Follows remit own (view k₂)) :
    (view k).Follows remit entries (view k') := by
  induction h with
  | nil => exact .refl
  | @cons x rest _ _ _ _ _ _ _ head _ ih =>
    obtain ⟨hfresh, hrest⟩ := List.nodup_cons.mp hnodup
    have hhead := hstep x List.mem_cons_self _ _ _ _ _ .refl rfl head
    refine hhead.trans (ih hrest fun other hother before k₁ y own k₂ hbefore hreason ↦ ?_)
    refine hstep other (List.mem_cons_of_mem _ hother) _ _ _ _ _ (hhead.trans hbefore) ?_
    -- what the head enters concerns its own channel, and no later step has that one
    have hne : key other ≠ key x := fun heq ↦ hfresh (heq ▸ List.mem_map_of_mem hother)
    rw [hreason, (hone head).2, (hone head).1.reason_replay hne]

/-- The turn of one channel: it finds the channel as it was before the loop and leaves it as it is
after the loop, and no later turn reads it. -/
theorem turn {i : Nat} {x : β} (h : Chain step xs k ys entries k') (hone : TakesOne view key step)
    (hnodup : (xs.map key).Nodup) (hx : xs[i]? = some x) :
    ∃ y before own after k₁ k₂, ys[i]? = some y ∧ entries = before ++ own ++ after ∧
      step x k₁ y own k₂ ∧ (view k₁).mask.reason (key x) = (view k).mask.reason (key x) ∧
      (view k').mask.reason (key x) = (view k₂).mask.reason (key x) ∧
      (∀ request ∈ after.requests, request.channel.channel ≠ key x) ∧
      Chain step (xs.take i) k (ys.take i) before k₁ := by
  obtain ⟨y, before, own, after, k₁, k₂, hy, rfl, hbefore, hown, hafter⟩ := h.split hx
  obtain ⟨hi, rfl⟩ := List.getElem?_eq_some_iff.mp hx
  -- the key of this turn occurs neither before it nor after it
  have hmap : xs.map key = (xs.take i).map key ++ key xs[i] :: (xs.drop (i + 1)).map key := by
    rw [← List.map_cons, ← List.map_append, ← List.drop_eq_getElem_cons hi, List.take_append_drop]
  rw [hmap, List.nodup_append, List.nodup_cons] at hnodup
  obtain ⟨_, ⟨hlater, _⟩, hearlier⟩ := hnodup
  have hafter_ne : ∀ x ∈ xs.drop (i + 1), key xs[i] ≠ key x :=
    fun x hx heq ↦ hlater (heq ▸ List.mem_map_of_mem hx)
  refine ⟨y, before, own, after, k₁, k₂, hy, rfl, hown, ?_, hafter.reason_eq hone hafter_ne,
    hafter.requests_ne hone hafter_ne, hbefore⟩
  refine hbefore.reason_eq hone fun x hx heq ↦ ?_
  exact hearlier _ (List.mem_map_of_mem hx) _ List.mem_cons_self heq.symm

/-- The turn of one member with all the readings of its channel: no other turn reads it. -/
theorem own_turn {i : Nat} {x : β} (h : Chain step xs k ys entries k')
    (hone : TakesOne view key step) (hnodup : (xs.map key).Nodup) (hx : xs[i]? = some x) :
    ∃ y before k₁ k₂, ∃ own : Journal, ys[i]? = some y ∧ own <:+: entries ∧
      entries.readingsOf (key x) = own.readings ∧ step x k₁ y own k₂ ∧
      (view k₁).mask.reason (key x) = (view k).mask.reason (key x) ∧
      (view k').mask.reason (key x) = (view k₂).mask.reason (key x) ∧
      Chain step (xs.take i) k (ys.take i) before k₁ := by
  obtain ⟨y, before, own, after, k₁, k₂, hy, rfl, hown, hstart, hend, hafter, hbefore⟩ :=
    h.turn hone hnodup hx
  have hfresh : ∀ other ∈ xs.take i, key x ≠ key other := by
    intro other hmem heq
    obtain ⟨hi, rfl⟩ := List.getElem?_eq_some_iff.mp hx
    obtain ⟨j, hj, rfl⟩ := List.mem_take_iff_getElem.mp hmem
    have hne := List.pairwise_iff_getElem.mp hnodup j i (by simp; omega) (by simpa) (by omega)
    exact hne (by simpa using heq.symm)
  refine ⟨y, before, k₁, k₂, own, hy, ⟨before, after, rfl⟩, ?_, hown, hstart, hend, hbefore⟩
  rw [Journal.readingsOf_append, Journal.readingsOf_append, Journal.readingsOf_eq_nil hafter,
    Journal.readingsOf_eq_nil (hbefore.requests_ne hone hfresh), (hone hown).1.readingsOf,
    List.nil_append, List.append_nil]

/-- The turn of a channel in a loop over all channels of a device. -/
theorem turn_range {step : Nat → κ → γ → Journal → κ → Prop} {channels channel : Nat}
    (h : Chain step (List.range channels) k ys entries k') (hone : TakesOne view id step)
    (hinside : channel < channels) :
    ∃ y before own after k₁ k₂, ys[channel]? = some y ∧ entries = before ++ own ++ after ∧
      step channel k₁ y own k₂ ∧
      (view k₁).mask.reason channel = (view k).mask.reason channel ∧
      (view k').mask.reason channel = (view k₂).mask.reason channel ∧
      (∀ request ∈ after.requests, request.channel.channel ≠ channel) ∧
      Chain step ((List.range channels).take channel) k (ys.take channel) before k₁ := by
  refine h.turn hone ?_ (List.getElem?_range hinside)
  rw [List.map_id]
  exact List.nodup_range

section

variable {step : Nat → Context R → γ → Journal → Context R → Prop} {context after : Context R}
  {channels channel : Nat}

/-- The turn of a channel in use, in a loop over all channels: it is in use when it is its turn, and
all its readings are of that turn. -/
theorem own_turn_inUse (h : Chain step (List.range channels) context ys entries after)
    (hone : TakesOne id id step)
    (hreplay : ∀ ⦃x k y own k'⦄, step x k y own k' → k' = k.replay own)
    (hplaces : context.mask.reasons.length = channels) (hmem : channel ∈ context.mask.unmasked) :
    ∃ y before k', ∃ own : Journal, ys[channel]? = some y ∧ own <:+: entries ∧
      entries.readingsOf channel = own.readings ∧
      step channel (context.replay before) y own k' ∧
      channel < (context.replay before).mask.reasons.length ∧
      (context.replay before).mask.reason channel = none ∧
      after.mask.reason channel = k'.mask.reason channel := by
  obtain ⟨hplace, hinUse⟩ := ChannelMask.mem_unmasked_iff.mp hmem
  obtain ⟨y, before, k₁, k₂, own, hy, hown, hreadings, hstep, hstart, hend, hbefore⟩ :=
    h.own_turn hone ((List.map_id _).symm ▸ List.nodup_range)
      (List.getElem?_range (hplaces ▸ hplace))
  obtain rfl : k₁ = context.replay before := hbefore.replay id fun _ _ _ _ _ hturn ↦ hreplay hturn
  refine ⟨y, before, k₂, own, hy, hown, hreadings, hstep, ?_, ?_, hend⟩
  · rw [Context.length_reasons_replay]
    exact hplace
  · exact hstart.trans (ChannelMask.reason_eq_none_iff.mpr hinUse)

/-- The turn of a channel out of use. -/
theorem own_turn_outOfUse (h : Chain step (List.range channels) context ys entries after)
    (hone : TakesOne id id step) (hinside : channel < channels)
    (hmasked : context.mask.isMasked channel = true) :
    ∃ y k k', ∃ own : Journal, ys[channel]? = some y ∧
      entries.readingsOf channel = own.readings ∧ step channel k y own k' ∧
      k.mask.isMasked channel = true ∧
      k.mask.reason channel = context.mask.reason channel ∧
      after.mask.reason channel = k'.mask.reason channel := by
  obtain ⟨y, before, k₁, k₂, own, hy, _, hreadings, hstep, hstart, hend, _⟩ :=
    h.own_turn hone ((List.map_id _).symm ▸ List.nodup_range) (List.getElem?_range hinside)
  refine ⟨y, k₁, k₂, own, hy, hreadings, hstep, ?_, hstart, hend⟩
  rw [ChannelMask.isMasked]
  exact hstart ▸ hmasked

end

end Chain

end ThresholdTrim
