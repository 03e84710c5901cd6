import ThresholdTrim.Proofs.Course

/-!
# Courses of sampling

One request is made again and again until an answer is usable or the attempts run out. All that a
sampler enters in the journal is readings of its own request, pauses and notices
(`Journal.Asks`), so what may be read is settled before the first attempt.
-/

namespace ThresholdTrim

variable {σ R : Type} {bench : Bench σ R} {request : Request}

/-- Entries about one request: its readings, and nothing that changes a mask or a register. -/
def Journal.Asks (request : Request) (entries : Journal) : Prop :=
  ∀ entry ∈ entries, match entry with
    | .reading other _ => other = request
    | .pause | .notice _ => True
    | .write _ _ _ | .masked _ _ => False

namespace Journal.Asks

variable {entries later : Journal}

theorem append (h : Asks request entries) (hlater : Asks request later) :
    Asks request (entries ++ later) := by
  intro entry hmem
  rcases List.mem_append.mp hmem with hmem | hmem
  · exact h entry hmem
  · exact hlater entry hmem

theorem notice (h : Asks request entries) (notice : Notice) :
    Asks request (entries ++ [.notice notice]) := by
  refine h.append fun entry hmem ↦ ?_
  obtain rfl := List.mem_singleton.mp hmem
  trivial

theorem maskings (h : Asks request entries) : entries.maskings = [] := by
  rw [Journal.maskings, List.filterMap_eq_nil_iff]
  intro entry hmem
  have hentry := h entry hmem
  cases entry with
  | masked => exact hentry.elim
  | _ => rfl

theorem concerns (h : Asks request entries) : entries.Concerns request.channel.channel := by
  intro entry hmem
  have hentry := h entry hmem
  cases entry with
  | reading other answer =>
    obtain rfl : other = request := hentry
    rfl
  | pause | notice => trivial
  | write | masked => exact hentry.elim

/-- The mask as it is when the sampler starts decides whether it may run. -/
theorem within {spec : DeviceSpec} {remit : Remit} {mask : ChannelMask} (h : Asks request entries)
    (haddress : request.Addresses spec mask) (hremit : remit.request request) :
    Within spec remit mask entries := by
  refine within_of_forall h.maskings fun entry hmem ↦ ?_
  have hentry := h entry hmem
  cases entry with
  | reading other answer =>
    obtain rfl : other = request := hentry
    exact ⟨haddress, hremit⟩
  | pause | notice => trivial
  | write | masked => exact hentry.elim

theorem follows {context : Context R} {remit : Remit} (h : Asks request entries)
    (haddress : request.Addresses context.spec context.mask) (hremit : remit.request request) :
    context.Follows remit entries context :=
  ⟨h.within haddress hremit, (ChannelMask.replay_of_maskings_eq_nil h.maskings).symm, rfl, rfl, rfl⟩

end Journal.Asks

namespace Sampler

/-! ## Attempts -/

/-- Calls up to the first usable answer, `further` at most after the first call. -/
inductive Tried (bench : Bench σ R) (request : Request) :
    Nat → Except String (List Nat) → Journal → Prop
  | last {answer : Except FrontEndError (List Nat)} (hanswer : bench.Answers request answer) :
    Tried bench request 0 (usable answer) [.reading request answer]
  | found {further : Nat} {answer : Except FrontEndError (List Nat)} {batch : List Nat}
    (hanswer : bench.Answers request answer) (husable : usable answer = .ok batch) :
    Tried bench request (further + 1) (.ok batch) [.reading request answer]
  | again {further : Nat} {answer : Except FrontEndError (List Nat)} {reason : String}
    {result : Except String (List Nat)} {later : Journal}
    (hanswer : bench.Answers request answer) (hfault : usable answer = .error reason)
    (rest : Tried bench request further result later) :
    Tried bench request (further + 1) result (.reading request answer :: .pause :: later)

theorem retry_ensures (further : Nat) :
    (retry bench request further).Ensures fun answer entries ↦
      ∃ result, answer = .ok result ∧ Tried bench request further result entries := by
  induction further with
  | zero =>
    refine ensures_bind (ensures_call fun answer hanswer ↦ ?_)
    exact ensures_pure ⟨_, rfl, .last hanswer⟩
  | succ further ih =>
    refine ensures_bind (ensures_call fun answer hanswer ↦ ?_)
    dsimp only
    rcases husable : usable answer with reason | batch
    · refine ensures_bind (ensures_pause ?_)
      refine ih.mono ?_
      rintro _ later ⟨result, rfl, htried⟩
      exact ⟨result, rfl, .again hanswer husable htried⟩
    · exact ensures_pure ⟨_, rfl, .found hanswer husable⟩

theorem usable_eq_ok {answer : Except FrontEndError (List Nat)} {batch : List Nat}
    (h : usable answer = .ok batch) : answer = .ok batch ∧ batch ≠ [] := by
  match answer, h with
  | .ok (_ :: _), h =>
    obtain rfl := Except.ok.inj h
    exact ⟨rfl, List.cons_ne_nil _ _⟩

theorem Tried.asks {further : Nat} {result : Except String (List Nat)} {entries : Journal}
    (h : Tried bench request further result entries) : entries.Asks request := by
  induction h with
  | last | found => simp [Journal.Asks]
  | again _ _ _ ih => simpa [Journal.Asks] using ih

/-- The outcome of the attempts is what the last answer amounts to. -/
theorem Tried.exists_last {further : Nat} {result : Except String (List Nat)} {entries : Journal}
    (h : Tried bench request further result entries) :
    ∃ before answer, entries = before ++ [.reading request answer] ∧ usable answer = result := by
  induction h with
  | last => exact ⟨[], _, rfl, rfl⟩
  | found _ husable => exact ⟨[], _, rfl, husable⟩
  | again _ _ _ ih =>
    obtain ⟨before, answer, rfl, husable⟩ := ih
    exact ⟨_ :: _ :: before, answer, rfl, husable⟩

theorem Tried.reading {further : Nat} {batch : List Nat} {entries : Journal}
    (h : Tried bench request further (.ok batch) entries) :
    .reading request (.ok batch) ∈ entries ∧ batch ≠ [] := by
  obtain ⟨before, answer, rfl, husable⟩ := h.exists_last
  obtain ⟨rfl, hbatch⟩ := usable_eq_ok husable
  exact ⟨List.mem_append_right _ List.mem_cons_self, hbatch⟩

/-! ## Batches -/

/-- A batch, accepted even when short, or a failure once the attempts are used up. -/
inductive Acquired (bench : Bench σ R) (request : Request) :
    Except (CalibrationError R) (List Nat) → Journal → Prop
  | whole {batch : List Nat} {entries : Journal}
    (tried : Tried bench request (bench.sampling.attempts - 1) (.ok batch) entries)
    (hlength : batch.length = request.count) : Acquired bench request (.ok batch) entries
  | short {batch : List Nat} {entries : Journal}
    (tried : Tried bench request (bench.sampling.attempts - 1) (.ok batch) entries)
    (hlength : batch.length ≠ request.count) :
    Acquired bench request (.ok batch) (entries ++ [.notice .partialBatch])
  | givenUp {reason : String} {entries : Journal}
    (tried : Tried bench request (bench.sampling.attempts - 1) (.error reason) entries) :
    Acquired bench request (.error (.sampling request.channel bench.sampling.attempts reason))
      (entries ++ [.notice .givingUpOnChannel])

theorem acquire_ensures : (acquire bench request).Ensures (Acquired bench request) := by
  refine ensures_bind ((retry_ensures _).mono ?_)
  rintro _ entries ⟨reason | batch, rfl, htried⟩
  · refine ensures_bind (ensures_note ?_)
    refine ensures_throw ?_
    rw [List.append_nil]
    exact .givenUp htried
  · by_cases hlength : batch.length = request.count
    · dsimp only
      rw [if_neg (not_not_intro hlength)]
      refine ensures_pure ?_
      rw [List.append_nil]
      exact .whole htried hlength
    · dsimp only
      rw [if_pos hlength]
      refine ensures_bind (ensures_note ?_)
      refine ensures_pure ?_
      rw [List.append_nil]
      exact .short htried hlength

variable {result : Except (CalibrationError R) (List Nat)} {entries : Journal}

theorem Acquired.asks (h : Acquired bench request result entries) : entries.Asks request := by
  cases h with
  | whole tried => exact tried.asks
  | short tried | givenUp tried => exact tried.asks.notice _

/-- A batch that comes back was read, and holds samples. -/
theorem Acquired.reading {batch : List Nat} (h : Acquired bench request (.ok batch) entries) :
    .reading request (.ok batch) ∈ entries ∧ batch ≠ [] := by
  cases h with
  | whole tried => exact tried.reading
  | short tried => exact ⟨List.mem_append_left _ tried.reading.1, tried.reading.2⟩

/-! ## Levels -/

variable [Scalar R] {channel : ChannelKey} {setting : Setting} {margin : R} {flavor : Flavor}

/-- The median of a nominal batch, or the failure to get one. -/
inductive LevelRead (bench : Bench σ R) (channel : ChannelKey) (setting : Setting) :
    Except (CalibrationError R) R → Journal → Prop
  | read {batch : List Nat} {entries : Journal} {count : Nat}
    (acquired : Acquired bench ⟨channel, setting, max bench.sampling.sampleCount 1⟩ (.ok batch)
      entries) (hmedian : Statistics.median batch = some count) :
    LevelRead bench channel setting (.ok (Scalar.ofCount count)) entries
  | failed {cause : CalibrationError R} {entries : Journal}
    (acquired : Acquired bench ⟨channel, setting, max bench.sampling.sampleCount 1⟩ (.error cause)
      entries) : LevelRead bench channel setting (.error cause) entries

theorem medianLevel_ensures :
    (medianLevel bench channel setting).Ensures (LevelRead bench channel setting) := by
  refine ensures_bind (acquire_ensures.mono ?_)
  rintro (cause | batch) entries hacquired
  · exact .failed hacquired
  · obtain ⟨count, hmedian⟩ := Statistics.exists_median hacquired.reading.2
    dsimp only
    rw [hmedian]
    refine ensures_pure ?_
    rw [List.append_nil]
    exact .read hacquired hmedian

/-- The mean of what pruning leaves of an oversampled batch, or the failure to get one. -/
inductive MeanRead (bench : Bench σ R) (channel : ChannelKey) (setting : Setting) (margin : R)
    (flavor : Flavor) : Except (CalibrationError R) R → Journal → Prop
  | read {batch : List Nat} {entries : Journal} {center : Nat}
    (acquired : Acquired bench ⟨channel, setting, bench.sampling.oversampled⟩ (.ok batch) entries)
    (hmedian : Statistics.median batch = some center)
    (hkept : Statistics.prune batch (Scalar.ofCount center) margin flavor ≠ []) :
    MeanRead bench channel setting margin flavor
      (.ok (Statistics.mean (Statistics.ofCounts
        (Statistics.prune batch (Scalar.ofCount center) margin flavor)))) entries
  | noneKept {batch : List Nat} {entries : Journal} {center : Nat}
    (acquired : Acquired bench ⟨channel, setting, bench.sampling.oversampled⟩ (.ok batch) entries)
    (hmedian : Statistics.median batch = some center)
    (hkept : Statistics.prune batch (Scalar.ofCount center) margin flavor = []) :
    MeanRead bench channel setting margin flavor (.error .noData) entries
  | failed {cause : CalibrationError R} {entries : Journal}
    (acquired : Acquired bench ⟨channel, setting, bench.sampling.oversampled⟩ (.error cause)
      entries) : MeanRead bench channel setting margin flavor (.error cause) entries

theorem prunedMeanLevel_ensures :
    (prunedMeanLevel bench channel setting margin flavor).Ensures
      (MeanRead bench channel setting margin flavor) := by
  refine ensures_bind (acquire_ensures.mono ?_)
  rintro (cause | batch) entries hacquired
  · exact .failed hacquired
  · obtain ⟨center, hmedian⟩ := Statistics.exists_median hacquired.reading.2
    dsimp only
    rw [hmedian]
    dsimp only
    split
    · rename_i hkept
      refine ensures_throw ?_
      rw [List.append_nil]
      exact .noneKept hacquired hmedian hkept
    · rename_i hkept
      refine ensures_pure ?_
      rw [List.append_nil]
      exact .read hacquired hmedian hkept

variable {level : Except (CalibrationError R) R}

theorem LevelRead.asks (h : LevelRead bench channel setting level entries) :
    entries.Asks ⟨channel, setting, max bench.sampling.sampleCount 1⟩ := by
  cases h with
  | read acquired | failed acquired => exact acquired.asks

theorem MeanRead.asks (h : MeanRead bench channel setting margin flavor level entries) :
    entries.Asks ⟨channel, setting, bench.sampling.oversampled⟩ := by
  cases h with
  | read acquired | noneKept acquired | failed acquired => exact acquired.asks

end Sampler

end ThresholdTrim
