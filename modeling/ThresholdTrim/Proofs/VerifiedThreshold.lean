import ThresholdTrim.Proofs.LastReading

/-!
# Thresholds that were verified

Solving for the threshold register nests three retries: the front-end is asked again, the response
is fitted again, and a candidate is tried again. The innermost belongs to the sampler. The other
two are read off the journal here as lists of rounds, each with its result and its entries, and the
journal of the stage is its rounds with a notice and a pause between each two.

The rounds carry everything else. Only the last try can succeed, so its batch is the last one read,
and what the work behind an answer was can be told from the answer: constants are backed by the
last fit and the last try, a fit that cannot be used ends the work before the first try, and any
other error is the failure of the last try there could be.
-/

namespace ThresholdTrim

open Scalar Statistics Sampler

variable {σ R : Type}

/-! ## Rounds -/

/-- One go at a part of the work: what came of it, and what it entered. -/
structure Round (R α : Type) where
  result : Except (CalibrationError R) α
  entries : Journal

theorem ne_nil_of_last {α : Type} {rounds : List (Round R α)}
    {result : Except (CalibrationError R) α}
    (hlast : rounds.getLast?.map Round.result = some result) : rounds ≠ [] := by
  rintro rfl
  cases hlast

/-- Stretches of a journal one after the other, with a notice and a pause between each two. -/
def Journal.spaced (notice : Notice) (stretches : List Journal) : Journal :=
  [.notice notice, .pause].intercalate stretches

namespace Journal

variable {notice : Notice} {entries later : Journal} {stretches : List Journal} {channel : Nat}
  {request : Request}

@[simp] theorem spaced_nil : spaced notice [] = [] := rfl

@[simp] theorem spaced_singleton : spaced notice [entries] = entries :=
  List.intercalate_singleton

theorem spaced_cons (h : stretches ≠ []) : spaced notice (entries :: stretches) =
    entries ++ .notice notice :: .pause :: spaced notice stretches := by
  rw [spaced, List.intercalate_cons_of_ne_nil h, List.append_assoc]
  rfl

/-- What the last stretch holds stands last. -/
theorem exists_spaced_concat (notice : Notice) (stretches : List Journal) (own : Journal) :
    ∃ before, spaced notice (stretches ++ [own]) = before ++ own := by
  induction stretches with
  | nil => exact ⟨[], spaced_singleton⟩
  | cons entries rest ih =>
    obtain ⟨before, hbefore⟩ := ih
    refine ⟨entries ++ .notice notice :: .pause :: before, ?_⟩
    rw [List.cons_append, spaced_cons (by simp), hbefore]
    simp

/-- The breaks read nothing. -/
theorem requests_spaced : (spaced notice stretches).requests = stretches.flatMap requests := by
  induction stretches with
  | nil => rfl
  | cons entries rest ih =>
    cases rest with
    | nil => simp
    | cons next rest =>
      rw [spaced_cons (List.cons_ne_nil _ _), requests_append, List.flatMap_cons, ← ih]
      rfl

/-- Where one channel only is read, its last reading is the last one. -/
theorem lastReading_eq_getLast?
    (h : ∀ request ∈ entries.requests, request.channel.channel = channel) :
    entries.lastReading channel = entries.readings.getLast? := by
  rw [lastReading, List.filter_eq_self.mpr]
  rintro ⟨request, answer⟩ hmem
  exact beq_iff_eq.mpr (h request (mem_requests.mpr ⟨answer, mem_readings.mp hmem⟩))

theorem Asks.eq_of_mem_requests (h : Asks request entries) {other : Request}
    (hmem : other ∈ entries.requests) : other = request := by
  obtain ⟨answer, hmem⟩ := mem_requests.mp hmem
  exact h _ hmem

end Journal

namespace Threshold

/-- What stands in the journal after the last try: a rejection is noted, and not waited for. -/
def verdict (tries : List (Round R R)) : Journal :=
  match tries.getLast? with
  | some ⟨.error _, _⟩ => [.notice .candidateRejected]
  | _ => []

/-- Whether a fit failed for its slope, which calls for another one. -/
def isOutOfBand : Except (CalibrationError R) (Line R) → Bool
  | .error (.slopeOutOfBand _ _ _) => true
  | _ => false

/-- Whether the requests are for the probe at mid trim, at register values of any kind. -/
def Probes (context : Context R) (probe : Nat) (entries : Journal) : Prop :=
  ∀ request ∈ entries.requests, request.channel = context.channelKey probe ∧
    ∃ dac, request.setting = .threshold dac context.trimMid

variable {context : Context R} {probe dac : Nat} {entries later : Journal}

theorem Probes.append (h : Probes context probe entries) (hlater : Probes context probe later) :
    Probes context probe (entries ++ later) := by
  intro request hmem
  rw [Journal.requests_append, List.mem_append] at hmem
  rcases hmem with hmem | hmem
  · exact h request hmem
  · exact hlater request hmem

theorem probes_of_requests_eq_nil (h : entries.requests = []) : Probes context probe entries := by
  rw [Probes, h]
  exact fun _ hmem ↦ nomatch hmem

theorem probes_of_asks {count : Nat}
    (h : entries.Asks ⟨context.channelKey probe, .threshold dac context.trimMid, count⟩) :
    Probes context probe entries := by
  intro request hmem
  obtain rfl := h.eq_of_mem_requests hmem
  exact ⟨rfl, dac, rfl⟩

theorem probes_spaced {α : Type} {notice : Notice} {rounds : List (Round R α)}
    (h : ∀ round ∈ rounds, Probes context probe round.entries) :
    Probes context probe (.spaced notice (rounds.map Round.entries)) := by
  intro request hmem
  rw [Journal.requests_spaced, List.flatMap_map, List.mem_flatMap] at hmem
  obtain ⟨round, hround, hmem⟩ := hmem
  exact h round hround request hmem

theorem probes_verdict {tries : List (Round R R)} : Probes context probe (verdict tries) := by
  refine probes_of_requests_eq_nil ?_
  rw [verdict]
  split <;> rfl

/-! ## Rounds of fitting -/

variable [Scalar R] {bench : Bench σ R} {settings : ThresholdSettings R} {baselineMv goalMv : R}

/-- The fits of one solution: a second one if the first slope came out of the band, and only
then. -/
inductive Fits (bench : Bench σ R) (settings : ThresholdSettings R) (context : Context R)
    (probe : Nat) : List (Round R (Line R)) → Prop
  | once {fit : Round R (Line R)}
    (fitted : Fitted bench settings probe context fit.result fit.entries)
    (hband : isOutOfBand fit.result = false) : Fits bench settings context probe [fit]
  | twice {first second : Round R (Line R)}
    (fitted : Fitted bench settings probe context first.result first.entries)
    (hband : isOutOfBand first.result = true)
    (again : Fitted bench settings probe context second.result second.entries) :
    Fits bench settings context probe [first, second]

theorem FittedTwice.exists_fits {result : Except (CalibrationError R) (Line R)}
    (h : FittedTwice bench settings probe context result entries) :
    ∃ fits, Fits bench settings context probe fits ∧
      fits.getLast?.map Round.result = some result ∧
      entries = .spaced .refitting (fits.map Round.entries) := by
  cases h with
  | fitted first =>
    exact ⟨[⟨_, entries⟩], .once first rfl, rfl, Journal.spaced_singleton.symm⟩
  | @degenerate cause _ first hcause =>
    refine ⟨[⟨_, entries⟩], .once first ?_, rfl, Journal.spaced_singleton.symm⟩
    cases cause with
    | slopeOutOfBand => exact absurd rfl (hcause _ _ _)
    | _ => rfl
  | @again slope low high _ entries later first second =>
    refine ⟨[⟨_, entries⟩, ⟨_, later⟩], .twice first rfl second, rfl, ?_⟩
    simp [Journal.spaced_cons]

theorem GuessRead.probes {after : Context R} {reading : Option (R × R)}
    (h : GuessRead bench settings probe dac context reading entries after) :
    Probes context probe entries ∧ after = context := by
  cases h with
  | read hlevel => exact ⟨probes_of_asks hlevel.asks, rfl⟩
  | skipped hlevel =>
    exact ⟨(probes_of_asks hlevel.asks).append (probes_of_requests_eq_nil rfl), rfl⟩

theorem probes_of_guesses {dacs : List Nat} {readings : List (Option (R × R))} {after : Context R}
    (h : Chain (GuessRead bench settings probe) dacs context readings entries after) :
    Probes context probe entries := by
  induction h with
  | nil => exact probes_of_requests_eq_nil rfl
  | cons head _ ih =>
    obtain ⟨hhead, rfl⟩ := head.probes
    exact hhead.append ih

theorem Fitted.probes {result : Except (CalibrationError R) (Line R)}
    (h : Fitted bench settings probe context result entries) : Probes context probe entries := by
  cases h with
  | degenerate guesses | outOfBand guesses | fitted guesses => exact probes_of_guesses guesses

theorem Fits.probes {fits : List (Round R (Line R))} (h : Fits bench settings context probe fits) :
    ∀ fit ∈ fits, Probes context probe fit.entries := by
  cases h with
  | once fitted => simpa using fitted.probes
  | twice fitted _ again => simpa using ⟨fitted.probes, again.probes⟩

/-! ## Rounds of trying -/

/-- The tries of one candidate: the first that is accepted is the last. -/
structure Tries (bench : Bench σ R) (settings : ThresholdSettings R) (context : Context R)
    (probe dac : Nat) (baselineMv goalMv : R) (tries : List (Round R R)) : Prop where
  tried : ∀ round ∈ tries, CandidateTried bench settings probe dac baselineMv goalMv context
    round.result round.entries
  early : ∀ round ∈ tries.dropLast, round.result.isOk = false

theorem Verified.exists_tries {further : Nat} {result : Except (CalibrationError R) R}
    (h : Verified bench settings probe dac baselineMv goalMv context further result entries) :
    ∃ tries, Tries bench settings context probe dac baselineMv goalMv tries ∧
      tries.getLast?.map Round.result = some result ∧ tries.length ≤ further + 1 ∧
      (result.isOk = false → tries.length = further + 1) ∧
      entries = .spaced .candidateRejected (tries.map Round.entries) ++ verdict tries := by
  induction h with
  | @rejected cause entries tried =>
    refine ⟨[⟨.error cause, entries⟩], ⟨by simpa using tried, by simp⟩, rfl,
      Nat.le_refl _, fun _ ↦ rfl, ?_⟩
    rw [List.map_singleton, Journal.spaced_singleton]
    rfl
  | @accepted further level entries tried =>
    refine ⟨[⟨.ok level, entries⟩], ⟨by simpa using tried, by simp⟩, rfl, by simp, nofun, ?_⟩
    rw [List.map_singleton, Journal.spaced_singleton]
    exact (List.append_nil _).symm
  | @again further cause result entries later tried rest ih =>
    obtain ⟨tries, htries, hlast, hfew, hall, rfl⟩ := ih
    have hne : tries ≠ [] := ne_nil_of_last hlast
    refine ⟨⟨.error cause, entries⟩ :: tries, ⟨?_, ?_⟩, ?_, ?_, ?_, ?_⟩
    · exact List.forall_mem_cons.mpr ⟨tried, htries.tried⟩
    · rw [List.dropLast_cons_of_ne_nil hne]
      exact List.forall_mem_cons.mpr ⟨rfl, htries.early⟩
    · rw [List.getLast?_cons_of_ne_nil hne, hlast]
    · simpa using hfew
    · simpa using hall
    · rw [verdict, verdict, List.getLast?_cons_of_ne_nil hne, List.map_cons,
        Journal.spaced_cons (by simpa using hne)]
      simp

theorem CandidateTried.probes {result : Except (CalibrationError R) R}
    (h : CandidateTried bench settings probe dac baselineMv goalMv context result entries) :
    Probes context probe entries := by
  cases h with
  | unread hlevel | rejected hlevel | accepted hlevel => exact probes_of_asks hlevel.asks

/-- The level of the last batch, and what it was checked for. -/
structure Accepted (bench : Bench σ R) (settings : ThresholdSettings R) (context : Context R)
    (probe dac : Nat) (baselineMv goalMv realized : R) (entries : Journal) : Prop where
  /-- The level is the pruned mean of the batch that was read last, at the candidate. -/
  level : ∃ batch center,
    entries.readings.getLast? =
      some (⟨context.channelKey probe, .threshold dac context.trimMid, bench.sampling.oversampled⟩,
        .ok batch) ∧
    median batch = some center ∧
    prune batch (ofCount center) settings.guessMarginMv context.spec.flavor ≠ [] ∧
    realized = mean (ofCounts
      (prune batch (ofCount center) settings.guessMarginMv context.spec.flavor))
  baseline : lt (context.spec.flavor.toMillivolts realized) baselineMv = false
  deviation : lt settings.deviationTolerance
    (abs ((context.spec.flavor.toMillivolts realized - goalMv) / goalMv)) = false

theorem checkRealized_eq_ok_iff {flavor : Flavor} {tolerance level : R} :
    checkRealized flavor tolerance baselineMv goalMv level = .ok level ↔
      lt (flavor.toMillivolts level) baselineMv = false ∧
        lt tolerance (abs ((flavor.toMillivolts level - goalMv) / goalMv)) = false := by
  rw [checkRealized]
  split
  · rename_i hbelow
    simp [hbelow]
  · rename_i hbelow
    split
    · rename_i hdeviation
      simp [hdeviation]
    · rename_i hdeviation
      rw [Bool.not_eq_true] at hbelow hdeviation
      simp [hbelow, hdeviation]

theorem CandidateTried.accept {realized : R}
    (h : CandidateTried bench settings probe dac baselineMv goalMv context (.ok realized) entries) :
    Accepted bench settings context probe dac baselineMv goalMv realized entries := by
  cases h with
  | accepted hlevel hcheck =>
    obtain ⟨hbaseline, hdeviation⟩ := checkRealized_eq_ok_iff.mp hcheck
    refine ⟨?_, hbaseline, hdeviation⟩
    cases hlevel with
    | @read batch _ center acquired hmedian hkept =>
      refine ⟨batch, center, ?_, hmedian, hkept, rfl⟩
      have hlast := acquired.lastReading
      rwa [Journal.lastReading_eq_getLast?] at hlast
      intro request hmem
      rw [acquired.asks.eq_of_mem_requests hmem]

/-- Whether an error is one that a try can end with. -/
def OfTrying : CalibrationError R → Prop
  | .sampling _ _ _ | .noData | .belowBaseline _ _ | .deviation _ _ _ => True
  | .hardware _ | .slopeOutOfBand _ _ _ | .degenerateFit _ | .dacOutOfRange _ => False

theorem CandidateTried.ofTrying {cause : CalibrationError R}
    (h : CandidateTried bench settings probe dac baselineMv goalMv context (.error cause) entries) :
    OfTrying cause := by
  cases h with
  | unread hlevel =>
    cases hlevel with
    | noneKept => trivial
    | failed acquired =>
      cases acquired with
      | givenUp => trivial
  | rejected _ hcheck =>
    rw [checkRealized] at hcheck
    split at hcheck
    · obtain rfl := Except.error.inj hcheck
      trivial
    · split at hcheck
      · obtain rfl := Except.error.inj hcheck
        trivial
      · cases hcheck

/-! ## Answers and the work behind them -/

/-- Constants that are backed: by the last fit, and by the last batch, which was read at their
register value. -/
structure Backed (bench : Bench σ R) (settings : ThresholdSettings R) (context : Context R)
    (device : DeviceBaseline R) (probe : Nat) (fits : List (Round R (Line R)))
    (tries : List (Round R R)) (entries : Journal) (constants : ThresholdConstants R) :
    Prop where
  slope : Scalar.within settings.slopeMin settings.slopeMax constants.slope = true
  fit : fits.getLast?.map Round.result = some (.ok ⟨constants.slope, constants.intercept⟩)
  target : constants.target =
    context.spec.flavor.toCounts (targetMv device context.spec.flavor settings)
  dac : invertTarget ⟨constants.slope, constants.intercept⟩ constants.target settings.thdacMax =
    .ok constants.dac
  tried : tries.getLast?.map Round.result = some (.ok constants.realized)
  accepted : Accepted bench settings context probe constants.dac
    (context.spec.flavor.toMillivolts device.median) (targetMv device context.spec.flavor settings)
    constants.realized entries

/-- What the line of the last fit is inverted to, at the level the device should be set to. -/
def Inverted (settings : ThresholdSettings R) (context : Context R) (device : DeviceBaseline R)
    (fits : List (Round R (Line R))) (outcome : Except (CalibrationError R) Nat) : Prop :=
  ∃ line, fits.getLast?.map Round.result = some (.ok line) ∧
    invertTarget line (context.spec.flavor.toCounts (targetMv device context.spec.flavor settings))
      settings.thdacMax = outcome

/-- What an error says about the work before it. A fit that cannot be used, or cannot be inverted,
leaves nothing to try; any other error is the failure of the last of all tries. -/
def Explains (attempts : Nat) (settings : ThresholdSettings R) (context : Context R)
    (device : DeviceBaseline R) (fits : List (Round R (Line R))) (tries : List (Round R R)) :
    CalibrationError R → Prop
  | .slopeOutOfBand slope low high => tries = [] ∧ ∃ first second, fits = [first, second] ∧
      isOutOfBand first.result = true ∧ second.result = .error (.slopeOutOfBand slope low high)
  | .degenerateFit fault => tries = [] ∧
      (fits.getLast?.map Round.result = some (.error (.degenerateFit fault)) ∨
        Inverted settings context device fits (.error (.degenerateFit fault)))
  | .dacOutOfRange dac => tries = [] ∧
      Inverted settings context device fits (.error (.dacOutOfRange dac))
  | .hardware _ => False
  | cause => tries.length = attempts ∧ (∀ round ∈ tries, round.result.isOk = false) ∧
      tries.getLast?.map Round.result = some (.error cause)

/-- Rounds of fitting and then rounds of trying, and what they come to. -/
structure SolvedIn (bench : Bench σ R) (settings : ThresholdSettings R) (context : Context R)
    (device : DeviceBaseline R) (probe : Nat) (fits : List (Round R (Line R)))
    (tries : List (Round R R)) (answer : Except (CalibrationError R) (ThresholdConstants R))
    (entries : Journal) : Prop where
  probes : Probes context probe entries
  journal : entries = Journal.spaced .refitting (fits.map Round.entries) ++
    (.spaced .candidateRejected (tries.map Round.entries) ++ verdict tries)
  fitted : Fits bench settings context probe fits
  /-- One candidate is tried, the one the last fit is inverted to. -/
  tried : tries ≠ [] → ∃ dac, Inverted settings context device fits (.ok dac) ∧
    Tries bench settings context probe dac (context.spec.flavor.toMillivolts device.median)
      (targetMv device context.spec.flavor settings) tries
  /-- It is tried whenever there is one. -/
  attempted : ∀ dac, Inverted settings context device fits (.ok dac) → tries ≠ []
  few : tries.length ≤ bench.sampling.attempts
  answer : match answer with
    | .ok constants => Backed bench settings context device probe fits tries entries constants
    | .error cause => Explains bench.sampling.attempts settings context device fits tries cause

variable {fits : List (Round R (Line R))} {tries : List (Round R R)} {attempts further : Nat}
  {cause : CalibrationError R} {line : Line R} {target : R} {device : DeviceBaseline R}

theorem Fits.fitted_last {result : Except (CalibrationError R) (Line R)}
    (h : Fits bench settings context probe fits)
    (hlast : fits.getLast?.map Round.result = some result) :
    ∃ entries, Fitted bench settings probe context result entries := by
  cases h with
  | once fitted => exact ⟨_, Option.some.inj hlast ▸ fitted⟩
  | twice _ _ again => exact ⟨_, Option.some.inj hlast ▸ again⟩

theorem Fits.within (h : Fits bench settings context probe fits)
    (hlast : fits.getLast?.map Round.result = some (.ok line)) :
    Scalar.within settings.slopeMin settings.slopeMax line.slope = true := by
  obtain ⟨entries, hfitted⟩ := h.fitted_last hlast
  cases hfitted with
  | fitted _ _ hband => exact hband

theorem Fits.explains (h : Fits bench settings context probe fits)
    (hlast : fits.getLast?.map Round.result = some (.error cause)) :
    Explains attempts settings context device fits [] cause := by
  obtain ⟨entries, hfitted⟩ := h.fitted_last hlast
  cases hfitted with
  | degenerate => exact ⟨rfl, .inl hlast⟩
  | outOfBand =>
    -- a single fit with such a slope would have been repeated
    cases h with
    | @once fit _ hband =>
      have hresult : fit.result = _ := Option.some.inj hlast
      rw [hresult] at hband
      cases hband
    | twice _ hband => exact ⟨rfl, _, _, rfl, hband, Option.some.inj hlast⟩

/-- An inversion fails for a line that is flat, or for a register value out of its range. -/
theorem invertTarget_eq_error {thdacMax : Nat}
    (h : invertTarget line target thdacMax = .error cause) :
    (∃ fault, cause = .degenerateFit fault) ∨ ∃ dac, cause = .dacOutOfRange dac := by
  rw [invertTarget] at h
  split at h
  · exact .inl ⟨_, (Except.error.inj h).symm⟩
  · split at h
    · exact .inr ⟨_, (Except.error.inj h).symm⟩
    · cases h

theorem Inverted.explains (h : Inverted settings context device fits (.error cause)) :
    Explains attempts settings context device fits [] cause := by
  have ⟨line, _, hdac⟩ := h
  rcases invertTarget_eq_error hdac with ⟨fault, rfl⟩ | ⟨dac, rfl⟩
  · exact ⟨rfl, .inr h⟩
  · exact ⟨rfl, h⟩

/-- The last fit has one line, and the line one inversion. -/
theorem Inverted.unique {first second : Except (CalibrationError R) Nat}
    (h : Inverted settings context device fits first)
    (hsecond : Inverted settings context device fits second) : first = second := by
  obtain ⟨line, hline, hdac⟩ := h
  obtain ⟨other, hother, hdac'⟩ := hsecond
  obtain rfl : line = other := Except.ok.inj (Option.some.inj (hline.symm.trans hother))
  exact hdac.symm.trans hdac'

theorem Tries.explains (h : Tries bench settings context probe dac baselineMv goalMv tries)
    (hlast : tries.getLast?.map Round.result = some (.error cause))
    (hall : tries.length = attempts) :
    Explains attempts settings context device fits tries cause := by
  obtain ⟨last, hmem, hresult⟩ := Option.map_eq_some_iff.mp hlast
  obtain ⟨before, rfl⟩ := List.getLast?_eq_some_iff.mp hmem
  have hfailed : ∀ round ∈ before ++ [last], round.result.isOk = false := by
    have hearly := h.early
    rw [List.dropLast_concat] at hearly
    refine List.forall_mem_append.mpr ⟨hearly, fun round hround ↦ ?_⟩
    rw [List.mem_singleton.mp hround, hresult]
    rfl
  have htrying : OfTrying cause :=
    (hresult ▸ h.tried last (List.mem_of_getLast? hmem)).ofTrying
  cases cause with
  | sampling | noData | belowBaseline | deviation => exact ⟨hall, hfailed, hlast⟩
  | hardware | slopeOutOfBand | degenerateFit | dacOutOfRange => exact htrying.elim

/-- The batch of an accepted candidate stays the last one, whatever was read before it. -/
theorem Accepted.append_left {realized : R}
    (h : Accepted bench settings context probe dac baselineMv goalMv realized later) :
    Accepted bench settings context probe dac baselineMv goalMv realized (entries ++ later) := by
  obtain ⟨batch, center, hlast, hlevel⟩ := h.level
  refine ⟨⟨batch, center, ?_, hlevel⟩, h.baseline, h.deviation⟩
  rw [Journal.readings_append, List.getLast?_append, hlast, Option.some_or]

theorem Tries.accept {realized : R}
    (h : Tries bench settings context probe dac baselineMv goalMv tries)
    (hlast : tries.getLast?.map Round.result = some (.ok realized)) :
    Accepted bench settings context probe dac baselineMv goalMv realized
      (.spaced .candidateRejected (tries.map Round.entries) ++ verdict tries) := by
  obtain ⟨⟨_, own⟩, hmem, rfl⟩ := Option.map_eq_some_iff.mp hlast
  obtain ⟨before, rfl⟩ := List.getLast?_eq_some_iff.mp hmem
  have hverdict : verdict (before ++ [⟨.ok realized, own⟩]) = [] := by
    rw [verdict, hmem]
  rw [hverdict, List.append_nil, List.map_append, List.map_singleton]
  obtain ⟨earlier, hearlier⟩ :=
    Journal.exists_spaced_concat .candidateRejected (before.map Round.entries) own
  rw [hearlier]
  exact (h.tried _ (List.mem_of_getLast? hmem)).accept.append_left

theorem Tries.probes (h : Tries bench settings context probe dac baselineMv goalMv tries) :
    Probes context probe
      (.spaced .candidateRejected (tries.map Round.entries) ++ verdict tries) :=
  (probes_spaced fun round hmem ↦ (h.tried round hmem).probes).append probes_verdict

/-- Fits that leave nothing to try. -/
theorem Fits.solvedIn (h : Fits bench settings context probe fits)
    (hnone : ∀ dac, ¬ Inverted settings context device fits (.ok dac))
    (hexplains : Explains bench.sampling.attempts settings context device fits [] cause) :
    SolvedIn bench settings context device probe fits [] (.error cause)
      (.spaced .refitting (fits.map Round.entries)) where
  probes := probes_spaced h.probes
  journal := (List.append_nil _).symm
  fitted := h
  tried hne := absurd rfl hne
  attempted dac hdac := absurd hdac (hnone dac)
  few := Nat.zero_le _
  answer := hexplains

theorem Solved.exists_rounds
    {answer : Except (CalibrationError R) (ThresholdConstants R)}
    (h : Solved bench settings context answer entries)
    (hdevice : context.deviceBaseline = some device)
    (hprobe : context.mask.unmasked.head? = some probe) :
    ∃ fits tries, SolvedIn bench settings context device probe fits tries answer entries := by
  have hattempts : bench.sampling.attempts - 1 + 1 = bench.sampling.attempts :=
    Nat.sub_add_cancel (Nat.le_max_right _ _)
  cases h with
  | noBaseline hnone =>
    rw [hdevice] at hnone
    cases hnone
  | noProbe hnone =>
    rw [hprobe] at hnone
    cases hnone
  | unfitted hprobe' fit =>
    obtain rfl := Option.some.inj (hprobe.symm.trans hprobe')
    obtain ⟨fits, hfits, hlast, rfl⟩ := fit.exists_fits
    refine ⟨fits, [], hfits.solvedIn ?_ (hfits.explains hlast)⟩
    rintro dac ⟨line, hline, _⟩
    cases Option.some.inj (hlast.symm.trans hline)
  | unsolvable hdevice' hprobe' fit hdac =>
    obtain rfl := Option.some.inj (hdevice.symm.trans hdevice')
    obtain rfl := Option.some.inj (hprobe.symm.trans hprobe')
    obtain ⟨fits, hfits, hline, rfl⟩ := fit.exists_fits
    have hinverted : Inverted settings context device fits _ := ⟨_, hline, hdac⟩
    exact ⟨fits, [], hfits.solvedIn (fun dac hdac ↦ nomatch hinverted.unique hdac)
      hinverted.explains⟩
  | unverified hdevice' hprobe' fit hdac verify =>
    obtain rfl := Option.some.inj (hdevice.symm.trans hdevice')
    obtain rfl := Option.some.inj (hprobe.symm.trans hprobe')
    obtain ⟨fits, hfits, hline, rfl⟩ := fit.exists_fits
    obtain ⟨tries, htries, hlast, hfew, hall, rfl⟩ := verify.exists_tries
    rw [hattempts] at hfew hall
    exact ⟨fits, tries, (probes_spaced hfits.probes).append htries.probes, rfl, hfits,
      fun _ ↦ ⟨_, ⟨_, hline, hdac⟩, htries⟩, fun _ _ ↦ ne_nil_of_last hlast, hfew,
      htries.explains hlast (hall rfl)⟩
  | solved hdevice' hprobe' fit hdac verify =>
    obtain rfl := Option.some.inj (hdevice.symm.trans hdevice')
    obtain rfl := Option.some.inj (hprobe.symm.trans hprobe')
    obtain ⟨fits, hfits, hline, rfl⟩ := fit.exists_fits
    obtain ⟨tries, htries, hlast, hfew, _, rfl⟩ := verify.exists_tries
    rw [hattempts] at hfew
    exact ⟨fits, tries, (probes_spaced hfits.probes).append htries.probes, rfl, hfits,
      fun _ ↦ ⟨_, ⟨_, hline, hdac⟩, htries⟩, fun _ _ ↦ ne_nil_of_last hlast, hfew,
      hfits.within hline, hline, rfl, hdac, hlast, (htries.accept hlast).append_left⟩

theorem Solved.nothing {answer : Except (CalibrationError R) (ThresholdConstants R)}
    (h : Solved bench settings context answer entries)
    (hprobe : context.mask.unmasked.head? = none) : answer = .error .noData ∧ entries = [] := by
  cases h with
  | noBaseline | noProbe => exact ⟨rfl, rfl⟩
  | unfitted hsome | unsolvable _ hsome | unverified _ hsome | solved _ hsome =>
    rw [hprobe] at hsome
    cases hsome

theorem solve_run_of_noBaseline {link : Link σ} (h : context.deviceBaseline = none) :
    (solve bench settings).run ⟨link, context⟩ = (.error .noData, ⟨link, context⟩) := by
  cases context
  cases h
  rfl

/-- Solving trusts nothing but a verified register. -/
theorem solve_trusts_verified_register (bench : Bench σ R) (settings : ThresholdSettings R)
    (context : Context R) (link : Link σ) :
    ∃ entries,
      ((solve bench settings).run ⟨link, context⟩).2.link.journal = link.journal ++ entries ∧
      ((solve bench settings).run ⟨link, context⟩).2.context = context ∧
      match context.deviceBaseline, context.mask.unmasked.head? with
      | some device, some probe => ∃ fits tries, SolvedIn bench settings context device probe
          fits tries ((solve bench settings).run ⟨link, context⟩).1 entries
      | _, _ => ((solve bench settings).run ⟨link, context⟩).1 = .error .noData ∧ entries = [] := by
  have hruns : (solve bench settings).Ensures context _ := solve_ensures context
  obtain ⟨entries, hjournal, hcontext, hsolved⟩ := hruns link
  refine ⟨entries, hjournal, hcontext, ?_⟩
  split
  · rename_i device probe hdevice hprobe
    exact hsolved.exists_rounds hdevice hprobe
  · rename_i hmissing
    cases hdevice : context.deviceBaseline with
    | none =>
      rw [solve_run_of_noBaseline hdevice] at hjournal ⊢
      exact ⟨rfl, List.self_eq_append_right.mp hjournal⟩
    | some device =>
      cases hprobe : context.mask.unmasked.head? with
      | none => exact hsolved.nothing hprobe
      | some probe => exact (hmissing device probe hdevice hprobe).elim

end Threshold

end ThresholdTrim
