import ThresholdTrim.Proofs.Course.Calibration

/-!
# What a channel answered last

A masked channel is not read again, so its last reading is one taken before it was masked, and often
the reason why it was. After baseline sampling there are two such reasons: the channel gave up
answering, or it lies below its baseline. `Journal.Accounted` says so of a stretch of journal.
-/

namespace ThresholdTrim

open Sampler

variable {σ R : Type} {bench : Bench σ R} {channel : Nat} {entries later : Journal}

/-! ## Last readings -/

namespace Journal

/-- What the channel was last asked for, with its answer. -/
def lastReading (entries : Journal) (channel : Nat) :
    Option (Request × Except FrontEndError (List Nat)) :=
  (entries.readings.filter fun reading ↦ reading.1.channel.channel == channel).getLast?

theorem lastReading_append : (entries ++ later).lastReading channel =
    (later.lastReading channel).or (entries.lastReading channel) := by
  rw [lastReading, readings_append, List.filter_append, List.getLast?_append]
  rfl

theorem lastReading_append_of_some {reading : Request × Except FrontEndError (List Nat)}
    (h : later.lastReading channel = some reading) :
    (entries ++ later).lastReading channel = some reading := by
  rw [lastReading_append, h, Option.some_or]

theorem lastReading_eq_none
    (h : ∀ request ∈ entries.requests, request.channel.channel ≠ channel) :
    entries.lastReading channel = none := by
  rw [lastReading, List.getLast?_eq_none_iff, List.filter_eq_nil_iff]
  rintro ⟨request, answer⟩ hmem
  have hrequest := h request (mem_requests.mpr ⟨answer, mem_readings.mp hmem⟩)
  simpa using hrequest

/-- A stretch that does not read the channel does not change its last reading. -/
theorem lastReading_append_of_ne
    (h : ∀ request ∈ later.requests, request.channel.channel ≠ channel) :
    (entries ++ later).lastReading channel = entries.lastReading channel := by
  rw [lastReading_append, lastReading_eq_none h, Option.none_or]

/-- A stretch that reads the channel decides, unless a later one does. -/
theorem lastReading_between {own : Journal} {reading : Request × Except FrontEndError (List Nat)}
    (hown : own.lastReading channel = some reading)
    (h : ∀ request ∈ later.requests, request.channel.channel ≠ channel) :
    (entries ++ own ++ later).lastReading channel = some reading := by
  rw [lastReading_append_of_ne h]
  exact lastReading_append_of_some hown

theorem mem_of_lastReading {request : Request} {answer : Except FrontEndError (List Nat)}
    (h : entries.lastReading channel = some (request, answer)) :
    .reading request answer ∈ entries := by
  have hmem := List.mem_of_getLast? h
  exact mem_readings.mp (List.mem_filter.mp hmem).1

/-- Once masked, the channel is not read any more. -/
theorem Within.lastReading_of_masked {spec : DeviceSpec} {remit : Remit} {mask : ChannelMask}
    {reason : MaskReason} (h : Within spec remit mask (entries ++ .masked channel reason :: later))
    (hinside : channel < mask.reasons.length) :
    lastReading (entries ++ .masked channel reason :: later) channel =
      entries.lastReading channel := by
  have hlater : Within spec remit (mask.replay (entries ++ [.masked channel reason])) later := by
    rw [ChannelMask.replay_append]
    exact (within_append.mp h).2.2
  have hmasked : (mask.replay (entries ++ [.masked channel reason])).isMasked channel = true := by
    rw [ChannelMask.replay_append, ChannelMask.replay_masked]
    refine ChannelMask.isMasked_mask ?_
    rwa [ChannelMask.length_reasons_replay]
  obtain ⟨first, hfirst⟩ := Option.isSome_iff_exists.mp hmasked
  refine lastReading_append_of_ne fun request hmem ↦ ?_
  exact hlater.ne_of_masked hfirst hmem

/-- The channel did not answer when it was last asked. -/
def Fails (entries : Journal) (channel : Nat) : Prop :=
  ∃ request answer reason, entries.lastReading channel = some (request, answer) ∧
    usable answer = .error reason

theorem Fails.append_left (h : later.Fails channel) : (entries ++ later).Fails channel := by
  obtain ⟨request, answer, reason, hlast, hreason⟩ := h
  exact ⟨request, answer, reason, lastReading_append_of_some hlast, hreason⟩

theorem Fails.append_right (h : entries.Fails channel)
    (hne : ∀ request ∈ later.requests, request.channel.channel ≠ channel) :
    (entries ++ later).Fails channel := by
  rwa [Fails, lastReading_append_of_ne hne]

/-- Channels are masked for lying below their baseline, or after they failed to answer. -/
def Accounted (entries : Journal) : Prop :=
  ∀ (before : Journal) channel reason after, entries = before ++ .masked channel reason :: after →
    reason = .belowBaseline ∨ before.Fails channel

theorem Accounted.append (h : entries.Accounted) (hlater : later.Accounted) :
    (entries ++ later).Accounted := by
  intro before channel reason after heq
  rcases List.append_eq_append_iff.mp heq with ⟨rest, rfl, hrest⟩ | ⟨rest, rfl, hrest⟩
  · exact (hlater rest channel reason after hrest).imp_right Fails.append_left
  · cases rest with
    | nil =>
      -- the masking is the first entry of the later part
      refine (hlater [] channel reason after hrest.symm).imp_right fun hfails ↦ ?_
      have hbefore : (before ++ []).Fails channel := hfails.append_left
      rwa [List.append_nil] at hbefore
    | cons entry rest =>
      obtain ⟨rfl, rfl⟩ := List.cons.inj hrest
      exact h before channel reason rest rfl

theorem accounted_of_maskings_eq_nil (h : entries.maskings = []) : entries.Accounted := by
  rintro before channel reason after rfl
  rw [maskings_append, List.append_eq_nil_iff] at h
  cases h.2

theorem Accounted.notices (h : entries.Accounted) (notices : List Notice) :
    Accounted (entries ++ notices.map .notice) :=
  h.append (accounted_of_maskings_eq_nil (maskings_notices notices))

/-- The entries before the masking settle the matter. -/
theorem accounted_masked {notice : Notice} {reason : MaskReason} (hkeep : entries.maskings = [])
    (hreason : reason = .belowBaseline ∨ entries.Fails channel) :
    Accounted (entries ++ [.notice notice, .masked channel reason]) := by
  intro before other found after heq
  rcases List.append_eq_append_iff.mp heq with ⟨rest, rfl, hrest⟩ | ⟨rest, rfl, hrest⟩
  · match rest with
    | [] => cases hrest
    | [_] =>
      cases hrest
      exact hreason.imp_right fun hfails ↦ hfails.append_right fun _ hmem ↦ nomatch hmem
    | _ :: _ :: rest => simp at hrest
  · have hnone : Journal.maskings rest = [] := by
      rw [maskings_append, List.append_eq_nil_iff] at hkeep
      exact hkeep.2
    cases rest with
    | nil => cases hrest
    | cons entry rest =>
      obtain ⟨rfl, _⟩ := List.cons.inj hrest
      cases hnone

end Journal

/-! ## What samplers leave behind -/

namespace Sampler

variable {request : Request}

theorem Tried.lastReading {further : Nat} {result : Except String (List Nat)}
    (h : Tried bench request further result entries) :
    ∃ answer, entries.lastReading request.channel.channel = some (request, answer) ∧
      usable answer = result := by
  obtain ⟨before, answer, rfl, husable⟩ := h.exists_last
  refine ⟨answer, Journal.lastReading_append_of_some ?_, husable⟩
  simp [Journal.lastReading, Journal.readings]

theorem Tried.lastReading_notice {further : Nat} {result : Except String (List Nat)}
    (h : Tried bench request further result entries) (notice : Notice) :
    ∃ answer, Journal.lastReading (entries ++ [.notice notice]) request.channel.channel =
      some (request, answer) ∧ usable answer = result := by
  have hnone : Journal.requests [.notice notice] = [] := rfl
  rw [Journal.lastReading_append_of_ne (by simp [hnone])]
  exact h.lastReading

/-- The batch that comes back is the last answer. -/
theorem Acquired.lastReading {batch : List Nat} (h : Acquired bench request (.ok batch) entries) :
    entries.lastReading request.channel.channel = some (request, .ok batch) := by
  have hlast : ∃ answer, entries.lastReading request.channel.channel = some (request, answer) ∧
      usable answer = .ok batch := by
    cases h with
    | whole tried => exact tried.lastReading
    | short tried => exact tried.lastReading_notice _
  obtain ⟨answer, hlast, husable⟩ := hlast
  obtain ⟨rfl, _⟩ := usable_eq_ok husable
  exact hlast

theorem Acquired.fails {cause : CalibrationError R}
    (h : Acquired bench request (.error cause) entries) :
    entries.Fails request.channel.channel := by
  cases h with
  | givenUp tried =>
    obtain ⟨answer, hlast, husable⟩ := tried.lastReading_notice .givingUpOnChannel
    exact ⟨request, answer, _, hlast, husable⟩

variable [Scalar R] {key : ChannelKey} {setting : Setting}

theorem LevelRead.fails {cause : CalibrationError R}
    (h : LevelRead bench key setting (.error cause) entries) : entries.Fails key.channel := by
  cases h with
  | failed acquired => exact acquired.fails

/-- The level is the median of the last answer. -/
theorem LevelRead.lastReading {level : R} (h : LevelRead bench key setting (.ok level) entries) :
    ∃ count batch sample,
      entries.lastReading key.channel = some (⟨key, setting, count⟩, .ok batch) ∧
      Statistics.median batch = some sample ∧ level = Scalar.ofCount sample := by
  cases h with
  | read acquired hmedian => exact ⟨_, _, _, acquired.lastReading, hmedian, rfl⟩

end Sampler

/-! ## Maskings of the stages after baseline sampling -/

variable [Scalar R] {context after : Context R}

theorem Chain.accounted {β κ γ : Type} {step : β → κ → γ → Journal → κ → Prop} {xs : List β}
    {ys : List γ} {k k' : κ} (h : Chain step xs k ys entries k')
    (hstep : ∀ x k y entries k', step x k y entries k' → entries.Accounted) :
    entries.Accounted := by
  induction h with
  | nil => exact Journal.accounted_of_maskings_eq_nil rfl
  | cons head _ ih => exact (hstep _ _ _ _ _ head).append ih

namespace Threshold

variable {dac : Nat}

/-- Solving masks no channel. -/
theorem Solved.accounted {thresholds : ThresholdSettings R}
    {result : Except (CalibrationError R) (ThresholdConstants R)}
    (h : Solved bench thresholds context result entries) (hfits : context.Fits) :
    entries.Accounted := by
  have hfollows : context.Follows ⟨fun _ ↦ True, fun _ _ ↦ False⟩ entries context :=
    h.follows hfits (fun _ _ _ _ ↦ trivial) fun _ _ _ _ _ _ ↦ trivial
  rintro before channel reason after rfl
  exact (hfollows.within.masking (List.mem_append_right _ List.mem_cons_self)).elim

theorem MidEffRead.accounted {channel : Nat} {eff : Option R}
    (h : MidEffRead bench dac channel context eff entries after) : entries.Accounted := by
  cases h with
  | masked => exact Journal.accounted_of_maskings_eq_nil rfl
  | read _ hlevel => exact Journal.accounted_of_maskings_eq_nil hlevel.asks.maskings
  | failed _ hlevel => exact Journal.accounted_masked hlevel.asks.maskings (.inr hlevel.fails)

theorem MidMeasured.accounted {result : Except (CalibrationError R) (MidTrim R)}
    (h : MidMeasured bench dac context result entries after) : entries.Accounted := by
  cases h with
  | noData channels | measured channels =>
    exact channels.accounted fun _ _ _ _ _ hread ↦ hread.accounted

theorem MarginChecked.accounted {thresholds : ThresholdSettings R} {mid : MidTrim R}
    (h : MarginChecked bench thresholds context (.ok mid) entries after) : entries.Accounted := by
  cases h with
  | kept _ first => exact first.accounted
  | raised _ _ _ first _ second probe =>
    have hnotice : Journal.Accounted [.notice .raisingForMargin] :=
      Journal.accounted_of_maskings_eq_nil rfl
    have hagain := first.accounted.append (hnotice.append second.accounted)
    have hprobe := hagain.append (Journal.accounted_of_maskings_eq_nil probe.maskings)
    exact hprobe.notices _

end Threshold

namespace Trim

variable {trims : TrimSettings R} {dac : Nat} {pass : Pass} {reads : Reads R} {key : ChannelKey}
  {baseline : R}

/-- A search that fails does so on its last reading. -/
theorem HighSearched.fails {tolerance midEff slopeBelow : R} {mid depth : Nat} {points : List Nat}
    {result : Except (CalibrationError R) (Region R)}
    (h : HighSearched (EffRead bench key dac baseline) tolerance mid midEff slopeBelow points depth
      result entries) {cause : CalibrationError R} (hresult : result = .error cause) :
    entries.Fails key.channel := by
  induction h with
  | exhausted | agreed => cases hresult
  | failed hread =>
    cases hread with
    | failed hlevel => exact hlevel.fails
  | next _ _ _ ih => exact (ih hresult).append_left

theorem RegionSearched.fails {cause : CalibrationError R}
    (h : RegionSearched (EffRead bench key dac baseline) trims (.error cause) entries) :
    entries.Fails key.channel := by
  cases h with
  | lowFailed hread =>
    cases hread with
    | failed hlevel => exact hlevel.fails
  | midFailed _ hread =>
    cases hread with
    | failed hlevel => exact hlevel.fails.append_left
  | searched _ _ _ search => exact (search.fails rfl).append_left

theorem RegionFound.accounted {channel : Nat} {found : Option (Region R)}
    (h : RegionFound bench trims dac channel context found entries after) :
    entries.Accounted := by
  cases h with
  | masked => exact Journal.accounted_of_maskings_eq_nil rfl
  | found _ search => exact Journal.accounted_of_maskings_eq_nil search.concerns.2
  | failed _ search => exact Journal.accounted_masked search.concerns.2 (.inr search.fails)

/-- Settling masks channels that fail, and those below their baseline. -/
theorem SettledAt.accounted {region : Region R} {channel trim : Nat} {settled : Settled R}
    (h : SettledAt bench trims dac pass region channel trim context settled entries after) :
    entries.Accounted := by
  cases h with
  | unread hlevel => exact Journal.accounted_masked hlevel.asks.maskings (.inr hlevel.fails)
  | below hlevel => exact Journal.accounted_masked hlevel.asks.maskings (.inl rfl)
  | short hlevel | aligned hlevel =>
    exact Journal.accounted_of_maskings_eq_nil hlevel.asks.maskings

theorem SettledAs.accounted {deviceEff : R} {foundAt : Option (Region R) × Nat}
    {settled : Settled R}
    (h : SettledAs bench trims dac pass deviceEff foundAt context settled entries after) :
    entries.Accounted := by
  cases h with
  | absent | leftAtMid => exact Journal.accounted_of_maskings_eq_nil rfl
  | tried _ settle => exact settle.accounted

theorem PassRun.accounted {result : Except (CalibrationError R) (PassOutcome R)}
    (h : PassRun bench trims dac pass context result entries after) : entries.Accounted := by
  have hregions : ∀ {regions between searches},
      Chain (RegionFound bench trims dac) (List.range context.spec.channels) (cleared context)
        regions searches between → searches.Accounted :=
    fun h ↦ h.accounted fun _ _ _ _ _ hfound ↦ hfound.accounted
  cases h with
  | noRegion search => exact hregions search
  | done search _ settle =>
    exact (hregions search).append (settle.accounted fun _ _ _ _ _ hsettled ↦ hsettled.accounted)

theorem Optimized.accounted (h : Optimized bench trims context (.ok ()) entries after) :
    entries.Accounted := by
  cases h with
  | once _ first => exact first.accounted.notices _
  | again _ first _ _ probe second =>
    have hprobe := first.accounted.append (Journal.accounted_of_maskings_eq_nil probe.maskings)
    exact hprobe.append second.accounted

end Trim

end ThresholdTrim
