import ThresholdTrim.Trim
import ThresholdTrim.Proofs.Course.Threshold

/-!
# Courses of the trim stage

A pass reads every channel in use twice over: once to find its region, once at the trim chosen from
it. The first readings of a channel all come before the last, and in between lies the median over
the device, so a pass is two chains and not one.
-/

namespace ThresholdTrim.Trim

open Scalar Statistics Sampler

variable {σ R : Type} [Scalar R] {bench : Bench σ R} {settings : TrimSettings R}
  {context : Context R} {dac channel : Nat} {pass : Pass}

/-! ## Regions -/

/-- How the effective threshold at a trim is read: the answer and the entries. -/
abbrev Reads (R : Type) := Nat → Except (CalibrationError R) R → Journal → Prop

/-- High points read in order up to the first whose slope agrees. -/
inductive HighSearched (reads : Reads R) (tolerance : R) (mid : Nat) (midEff slopeBelow : R) :
    List Nat → Nat → Except (CalibrationError R) (Region R) → Journal → Prop
  | exhausted {depth : Nat} :
    HighSearched reads tolerance mid midEff slopeBelow [] depth
      (.ok (.unusable midEff (depth - 1))) []
  | failed {high depth : Nat} {rest : List Nat} {cause : CalibrationError R} {entries : Journal}
    (hread : reads high (.error cause) entries) :
    HighSearched reads tolerance mid midEff slopeBelow (high :: rest) depth (.error cause) entries
  | agreed {high depth : Nat} {rest : List Nat} {highEff : R} {entries : Journal}
    (hread : reads high (.ok highEff) entries)
    (hslopes :
      slopesAgree slopeBelow ((highEff - midEff) / ofCount (high - mid)) tolerance = true) :
    HighSearched reads tolerance mid midEff slopeBelow (high :: rest) depth
      (.ok (.upTo high
        ((slopeBelow + (highEff - midEff) / ofCount (high - mid)) / ofCount 2) midEff depth))
      entries
  | next {high depth : Nat} {rest : List Nat} {highEff : R} {entries later : Journal}
    {result : Except (CalibrationError R) (Region R)} (hread : reads high (.ok highEff) entries)
    (hslopes : slopesAgree slopeBelow ((highEff - midEff) / ofCount (high - mid)) tolerance = false)
    (search : HighSearched reads tolerance mid midEff slopeBelow rest (depth + 1) result later) :
    HighSearched reads tolerance mid midEff slopeBelow (high :: rest) depth result
      (entries ++ later)

/-- Low and mid read, then the high points if there are any to read. -/
inductive RegionSearched (reads : Reads R) (settings : TrimSettings R) :
    Except (CalibrationError R) (Region R) → Journal → Prop
  | lowFailed {cause : CalibrationError R} {entries : Journal}
    (hlow : reads settings.low (.error cause) entries) :
    RegionSearched reads settings (.error cause) entries
  | midFailed {cause : CalibrationError R} {lowEff : R} {entries later : Journal}
    (hlow : reads settings.low (.ok lowEff) entries)
    (hmid : reads settings.mid (.error cause) later) :
    RegionSearched reads settings (.error cause) (entries ++ later)
  | tooNarrow {lowEff midEff : R} {entries later : Journal}
    (hlow : reads settings.low (.ok lowEff) entries) (hmid : reads settings.mid (.ok midEff) later)
    (hrange : settings.mid ≤ settings.low ∨ min settings.high settings.trimMax ≤ settings.mid) :
    RegionSearched reads settings (.ok (.unusable midEff 0)) (entries ++ later)
  | searched {lowEff midEff : R} {entries later last : Journal}
    {result : Except (CalibrationError R) (Region R)}
    (hlow : reads settings.low (.ok lowEff) entries) (hmid : reads settings.mid (.ok midEff) later)
    (hrange : ¬(settings.mid ≤ settings.low ∨ min settings.high settings.trimMax ≤ settings.mid))
    (search : HighSearched reads settings.slopeTolerance settings.mid midEff
      ((midEff - lowEff) / ofCount (settings.mid - settings.low))
      (highPoints settings.mid (min settings.high settings.trimMax)) 0 result last) :
    RegionSearched reads settings result (entries ++ later ++ last)

section

variable {reads : Reads R} {level : Nat → Stage σ R R}

theorem searchHigh_ensures {tolerance midEff slopeBelow : R} {mid : Nat}
    (hlevel : ∀ trim, (level trim).Ensures context fun answer entries after ↦
      after = context ∧ reads trim answer entries) (points : List Nat) (depth : Nat) :
    (searchHigh level tolerance mid midEff slopeBelow points depth).Ensures context
      fun answer entries after ↦ after = context ∧
        HighSearched reads tolerance mid midEff slopeBelow points depth answer entries := by
  induction points generalizing depth with
  | nil => exact Stage.ensures_pure ⟨rfl, .exhausted⟩
  | cons high rest ih =>
    refine Stage.ensures_bind ((hlevel high).mono ?_)
    rintro (cause | highEff) entries _ ⟨rfl, hread⟩
    · exact ⟨rfl, .failed hread⟩
    · dsimp only
      split
      · rename_i hslopes
        refine Stage.ensures_pure ⟨rfl, ?_⟩
        simpa using HighSearched.agreed hread hslopes
      · rename_i hslopes
        rw [Bool.not_eq_true] at hslopes
        refine (ih (depth + 1)).mono ?_
        rintro answer later _ ⟨rfl, hsearch⟩
        exact ⟨rfl, .next hread hslopes hsearch⟩

theorem findRegion_ensures (hlevel : ∀ trim, (level trim).Ensures context fun answer entries after ↦
      after = context ∧ reads trim answer entries) :
    (findRegion level settings).Ensures context fun answer entries after ↦
      after = context ∧ RegionSearched reads settings answer entries := by
  refine Stage.ensures_bind ((hlevel settings.low).mono ?_)
  rintro (cause | lowEff) entries _ ⟨rfl, hlow⟩
  · exact ⟨rfl, .lowFailed hlow⟩
  refine Stage.ensures_bind ((hlevel settings.mid).mono ?_)
  rintro (cause | midEff) later _ ⟨rfl, hmid⟩
  · exact ⟨rfl, .midFailed hlow hmid⟩
  dsimp only
  split
  · rename_i hrange
    refine Stage.ensures_pure ⟨rfl, ?_⟩
    simpa using RegionSearched.tooNarrow hlow hmid hrange
  · rename_i hrange
    refine (searchHigh_ensures hlevel _ _).mono ?_
    rintro answer last _ ⟨rfl, hsearch⟩
    refine ⟨rfl, ?_⟩
    simpa using RegionSearched.searched hlow hmid hrange hsearch

end

/-- The level of a channel at a trim, less its baseline. -/
inductive EffRead (bench : Bench σ R) (channel : ChannelKey) (dac : Nat) (baseline : R) : Reads R
  | read {trim : Nat} {level : R} {entries : Journal}
    (hlevel : LevelRead bench channel (.threshold dac trim) (.ok level) entries) :
    EffRead bench channel dac baseline trim (.ok (level - baseline)) entries
  | failed {trim : Nat} {cause : CalibrationError R} {entries : Journal}
    (hlevel : LevelRead bench channel (.threshold dac trim) (.error cause) entries) :
    EffRead bench channel dac baseline trim (.error cause) entries

theorem eff_ensures (key : ChannelKey) (baseline : R) (trim : Nat) :
    (do
      let level ← Stage.sample (medianLevel bench key (.threshold dac trim))
      return level - baseline : Stage σ R R).Ensures context fun answer entries after ↦
        after = context ∧ EffRead bench key dac baseline trim answer entries := by
  refine Stage.ensures_bind (Stage.ensures_sample (medianLevel_ensures.mono ?_))
  rintro (cause | level) entries hlevel
  · exact ⟨rfl, .failed hlevel⟩
  · refine Stage.ensures_pure ⟨rfl, ?_⟩
    rw [List.append_nil]
    exact .read hlevel

/-- The region of one channel. -/
inductive RegionFound (bench : Bench σ R) (settings : TrimSettings R) (dac : Nat) :
    Nat → Context R → Option (Region R) → Journal → Context R → Prop
  | masked {channel : Nat} {context : Context R}
    (hmasked : context.mask.isMasked channel = true) :
    RegionFound bench settings dac channel context none [] context
  | found {channel : Nat} {context : Context R} {region : Region R} {entries : Journal}
    (hmasked : context.mask.isMasked channel = false)
    (search : RegionSearched (EffRead bench (context.channelKey channel) dac
      (context.baseline channel).median) settings (.ok region) entries) :
    RegionFound bench settings dac channel context (some region) entries context
  | failed {channel : Nat} {context : Context R} {cause : CalibrationError R} {entries : Journal}
    (hmasked : context.mask.isMasked channel = false)
    (search : RegionSearched (EffRead bench (context.channelKey channel) dac
      (context.baseline channel).median) settings (.error cause) entries) :
    RegionFound bench settings dac channel context none
      (entries ++ [.notice .regionSearchFailed, .masked channel .noData])
      (context.withMask (context.mask.mask channel .noData))

theorem channelRegion_yields (channel : Nat) (context : Context R) :
    (channelRegion bench settings dac channel).Yields context
      (RegionFound bench settings dac channel context) := by
  refine Stage.ensures_bind (Stage.ensures_context ?_)
  dsimp only
  split
  · rename_i hmasked
    exact Stage.ensures_pure ⟨_, rfl, .masked hmasked⟩
  · rename_i hmasked
    rw [Bool.not_eq_true] at hmasked
    refine Stage.ensures_bind (Stage.ensures_attempt ?_)
    refine (findRegion_ensures (eff_ensures _ _)).mono ?_
    rintro (cause | region) entries _ ⟨rfl, hsearch⟩
    · refine Stage.ensures_bind (Stage.ensures_note ?_)
      refine Stage.ensures_bind (Stage.ensures_mask (Stage.ensures_pure ⟨_, rfl, ?_⟩))
      exact .failed hmasked hsearch
    · refine Stage.ensures_pure ⟨_, rfl, ?_⟩
      simpa using RegionFound.found hmasked hsearch

/-! ## Trims -/

/-- A channel read at its trim. -/
inductive SettledAt (bench : Bench σ R) (settings : TrimSettings R) (dac : Nat) (pass : Pass)
    (region : Region R) (channel trim : Nat) (context : Context R) :
    Settled R → Journal → Context R → Prop
  | unread {cause : CalibrationError R} {entries : Journal}
    (hlevel : LevelRead bench (context.channelKey channel) (.threshold dac trim) (.error cause)
      entries) :
    SettledAt bench settings dac pass region channel trim context .dropped
      (entries ++ [.notice .noThresholdAtTrim, .masked channel .noData])
      (context.withMask (context.mask.mask channel .noData))
  | below {realized eff : R} {entries : Journal}
    (hlevel : LevelRead bench (context.channelKey channel) (.threshold dac trim) (.ok realized)
      entries) (heff : eff = realized - (context.baseline channel).median)
    (hnegative : lt eff (ofCount 0) = true)
    (hdrop : lt (context.spec.flavor.toCounts settings.bumpCutoffMv) (-eff) = true ∨
      pass = .second) :
    SettledAt bench settings dac pass region channel trim context .dropped
      (entries ++ [.notice .belowBaseline, .masked channel .belowBaseline])
      (context.withMask (context.mask.mask channel .belowBaseline))
  | short {realized eff : R} {entries : Journal}
    (hlevel : LevelRead bench (context.channelKey channel) (.threshold dac trim) (.ok realized)
      entries) (heff : eff = realized - (context.baseline channel).median)
    (hnegative : lt eff (ofCount 0) = true)
    (hcutoff : lt (context.spec.flavor.toCounts settings.bumpCutoffMv) (-eff) = false)
    (hpass : pass = .first) :
    SettledAt bench settings dac pass region channel trim context
      (.trimmed ⟨region.slope, region.trimMax, trim, eff, realized⟩ (some (-eff))) entries context
  | aligned {realized eff : R} {entries : Journal}
    (hlevel : LevelRead bench (context.channelKey channel) (.threshold dac trim) (.ok realized)
      entries) (heff : eff = realized - (context.baseline channel).median)
    (hnegative : lt eff (ofCount 0) = false) :
    SettledAt bench settings dac pass region channel trim context
      (.trimmed ⟨region.slope, region.trimMax, trim, eff, realized⟩ none) entries context

theorem settleAt_yields (region : Region R) (channel trim : Nat) (context : Context R) :
    (settleAt bench settings dac pass region channel trim).Yields context
      (SettledAt bench settings dac pass region channel trim context) := by
  refine Stage.ensures_bind (Stage.ensures_context ?_)
  refine Stage.ensures_bind (Stage.ensures_attempt (Stage.ensures_sample ?_))
  refine medianLevel_ensures.mono ?_
  rintro (cause | realized) entries hlevel
  · refine Stage.ensures_bind (Stage.ensures_note ?_)
    refine Stage.ensures_bind (Stage.ensures_mask (Stage.ensures_pure ⟨_, rfl, ?_⟩))
    exact .unread hlevel
  · dsimp only
    split
    · rename_i hnegative
      split
      · rename_i hdrop
        refine Stage.ensures_bind (Stage.ensures_note ?_)
        refine Stage.ensures_bind (Stage.ensures_mask (Stage.ensures_pure ⟨_, rfl, ?_⟩))
        refine .below hlevel rfl hnegative ?_
        simpa using hdrop
      · rename_i hdrop
        have hkeep : lt (context.spec.flavor.toCounts settings.bumpCutoffMv)
            (-(realized - (context.baseline channel).median)) = false ∧ pass ≠ .second := by
          simpa using hdrop
        refine Stage.ensures_pure ⟨_, rfl, ?_⟩
        rw [List.append_nil]
        refine .short hlevel rfl hnegative hkeep.1 ?_
        cases pass with
        | first => rfl
        | second => exact absurd rfl hkeep.2
    · rename_i hnegative
      rw [Bool.not_eq_true] at hnegative
      refine Stage.ensures_pure ⟨_, rfl, ?_⟩
      rw [List.append_nil]
      exact .aligned hlevel rfl hnegative

/-- One channel settled. -/
inductive SettledAs (bench : Bench σ R) (settings : TrimSettings R) (dac : Nat) (pass : Pass)
    (deviceEff : R) :
    Option (Region R) × Nat → Context R → Settled R → Journal → Context R → Prop
  | absent {channel : Nat} {context : Context R} :
    SettledAs bench settings dac pass deviceEff (none, channel) context .absent [] context
  | leftAtMid {region : Region R} {channel : Nat} {context : Context R}
    (husable : region.isUsable = false) :
    SettledAs bench settings dac pass deviceEff (some region, channel) context
      (.leftAtMid ⟨ofCount 0, 0, settings.mid, region.midEff,
        region.midEff + (context.baseline channel).median⟩) [] context
  | tried {region : Region R} {channel : Nat} {context after : Context R} {settled : Settled R}
    {entries : Journal} (husable : region.isUsable = true)
    (settle : SettledAt bench settings dac pass region channel
      (chooseTrim region.midEff deviceEff region.slope settings.mid region.trimMax) context settled
      entries after) :
    SettledAs bench settings dac pass deviceEff (some region, channel) context settled entries after

theorem settle_yields {deviceEff : R} (found : Option (Region R) × Nat) (context : Context R) :
    (settle bench settings dac pass deviceEff found).Yields context
      (SettledAs bench settings dac pass deviceEff found context) := by
  obtain ⟨_ | region, channel⟩ := found
  · exact Stage.ensures_pure ⟨_, rfl, .absent⟩
  · rw [settle]
    split
    · rename_i husable
      refine (settleAt_yields _ _ _ _).mono ?_
      rintro _ entries after ⟨settled, rfl, hsettle⟩
      exact ⟨settled, rfl, .tried husable hsettle⟩
    · rename_i husable
      rw [Bool.not_eq_true] at husable
      refine Stage.ensures_bind (Stage.ensures_context (Stage.ensures_pure ⟨_, rfl, ?_⟩))
      exact .leftAtMid husable

/-- The context a pass starts from: the trims of an earlier pass are gone. -/
def cleared (context : Context R) : Context R :=
  { context with trims := List.replicate context.spec.channels none }

/-- The effective thresholds at mid trim a pass found, with their median. -/
def midOf (regions : List (Option (Region R))) (deviceEff : R) : MidTrim R :=
  ⟨regions.map fun region ↦ region.map (·.midEff), deviceEff⟩

/-- A pass over the device. -/
inductive PassRun (bench : Bench σ R) (settings : TrimSettings R) (dac : Nat) (pass : Pass)
    (context : Context R) : Except (CalibrationError R) (PassOutcome R) → Journal → Context R → Prop
  | noRegion {regions : List (Option (Region R))} {entries : Journal} {after : Context R}
    (search : Chain (RegionFound bench settings dac) (List.range context.spec.channels)
      (cleared context) regions entries after)
    (hmedian : scalarMedian ((regions.map fun region ↦ region.map (·.midEff)).filterMap id) =
      none) :
    PassRun bench settings dac pass context (.error .noData) entries after
  | done {regions : List (Option (Region R))} {deviceEff : R} {settled : List (Settled R)}
    {entries later : Journal} {between after : Context R}
    (search : Chain (RegionFound bench settings dac) (List.range context.spec.channels)
      (cleared context) regions entries between)
    (hmedian : scalarMedian ((regions.map fun region ↦ region.map (·.midEff)).filterMap id) =
      some deviceEff)
    (settle : Chain (SettledAs bench settings dac pass deviceEff) regions.zipIdx
      { between with mid := some (midOf regions deviceEff) } settled later after) :
    PassRun bench settings dac pass context (.ok (.ofSettled settled)) (entries ++ later)
      { after with trims := settled.map Settled.result }

theorem runPass_ensures (context : Context R) :
    (runPass bench settings dac pass).Ensures context
      (PassRun bench settings dac pass context) := by
  refine Stage.ensures_bind (Stage.ensures_context ?_)
  refine Stage.ensures_bind (Stage.ensures_update ?_)
  refine Stage.ensures_bind ((Stage.yields_mapM channelRegion_yields _).mono ?_)
  rintro _ entries between ⟨regions, rfl, hsearch⟩
  refine Stage.ensures_bind (Stage.ensures_need (fun hnone ↦ ?_) fun deviceEff hmedian ↦ ?_)
  · simpa using PassRun.noRegion hsearch hnone
  refine Stage.ensures_bind (Stage.ensures_update ?_)
  refine Stage.ensures_bind ((Stage.yields_mapM settle_yields _).mono ?_)
  rintro _ later after ⟨settled, rfl, hsettle⟩
  refine Stage.ensures_bind (Stage.ensures_update (Stage.ensures_pure ?_))
  simpa using PassRun.done hsearch hmedian hsettle

/-! ## Re-entry -/

/-- What is said after a first pass that is the last. -/
def outcomeNotices (settings : TrimSettings R) (outcome : PassOutcome R) : List Notice :=
  if tooManyUnusable outcome.unusable outcome.regions settings then [.manyUnusable] else []

/-- The context a second pass starts from. -/
def reentered (context : Context R) (constants : ThresholdConstants R) (dac : Nat) (realized : R) :
    Context R :=
  { context with threshold := some { constants with dac, realized }, secondPass := true }

/-- The trims of the device, in one pass or two. -/
inductive Optimized (bench : Bench σ R) (settings : TrimSettings R) (context : Context R) :
    Except (CalibrationError R) Unit → Journal → Context R → Prop
  | noThreshold (hthreshold : context.threshold = none) :
    Optimized bench settings context (.error .noData) [] context
  | firstFailed {constants : ThresholdConstants R} {cause : CalibrationError R} {entries : Journal}
    {after : Context R} (hthreshold : context.threshold = some constants)
    (first : PassRun bench settings constants.dac .first context (.error cause) entries after) :
    Optimized bench settings context (.error cause) entries after
  | once {constants : ThresholdConstants R} {outcome : PassOutcome R} {entries : Journal}
    {after : Context R} (hthreshold : context.threshold = some constants)
    (first : PassRun bench settings constants.dac .first context (.ok outcome) entries after)
    (hfixable : outcome.bumps.any (isFixable after.trims) = false) :
    Optimized bench settings context (.ok ())
      (entries ++ (outcomeNotices settings outcome).map .notice) after
  | unrealized {constants : ThresholdConstants R} {outcome : PassOutcome R}
    {cause : CalibrationError R} {entries later : Journal} {after : Context R}
    (hthreshold : context.threshold = some constants)
    (first : PassRun bench settings constants.dac .first context (.ok outcome) entries after)
    (hfixable : outcome.bumps.any (isFixable after.trims) = true)
    (probe : Threshold.RealizedRead bench (raisedForBumps constants outcome.bumps after.thdacMax)
      after (.error cause) later) :
    Optimized bench settings context (.error cause) (entries ++ later) after
  | secondFailed {constants : ThresholdConstants R} {outcome : PassOutcome R} {dac : Nat}
    {realized : R} {cause : CalibrationError R} {entries later last : Journal}
    {between after : Context R} (hthreshold : context.threshold = some constants)
    (first : PassRun bench settings constants.dac .first context (.ok outcome) entries between)
    (hfixable : outcome.bumps.any (isFixable between.trims) = true)
    (hdac : dac = raisedForBumps constants outcome.bumps between.thdacMax)
    (probe : Threshold.RealizedRead bench dac between (.ok realized) later)
    (second : PassRun bench settings dac .second (reentered between constants dac realized)
      (.error cause) last after) :
    Optimized bench settings context (.error cause) (entries ++ later ++ last) after
  | again {constants : ThresholdConstants R} {outcome reached : PassOutcome R} {dac : Nat}
    {realized : R} {entries later last : Journal} {between after : Context R}
    (hthreshold : context.threshold = some constants)
    (first : PassRun bench settings constants.dac .first context (.ok outcome) entries between)
    (hfixable : outcome.bumps.any (isFixable between.trims) = true)
    (hdac : dac = raisedForBumps constants outcome.bumps between.thdacMax)
    (probe : Threshold.RealizedRead bench dac between (.ok realized) later)
    (second : PassRun bench settings dac .second (reentered between constants dac realized)
      (.ok reached) last after) :
    Optimized bench settings context (.ok ()) (entries ++ later ++ last) after

theorem optimize_ensures (context : Context R) :
    (optimize bench settings).Ensures context (Optimized bench settings context) := by
  refine Stage.ensures_bind (Stage.ensures_context ?_)
  refine Stage.ensures_bind (Stage.ensures_need (fun hnone ↦ ?_) fun constants hthreshold ↦ ?_)
  · exact .noThreshold hnone
  refine Stage.ensures_bind ((runPass_ensures context).mono ?_)
  rintro (cause | outcome) entries between hfirst
  · exact .firstFailed hthreshold hfirst
  refine Stage.ensures_bind (Stage.ensures_context ?_)
  dsimp only
  split
  · rename_i hfixable
    refine Stage.ensures_bind ((Threshold.measureRealized_ensures between).mono ?_)
    rintro (cause | realized) later _ ⟨rfl, hprobe⟩
    · simpa using Optimized.unrealized hthreshold hfirst hfixable hprobe
    refine Stage.ensures_bind (Stage.ensures_update ?_)
    refine Stage.ensures_bind ((runPass_ensures _).mono ?_)
    rintro (cause | again) last after hsecond
    · simpa using Optimized.secondFailed hthreshold hfirst hfixable rfl hprobe hsecond
    · refine Stage.ensures_pure ?_
      simpa using Optimized.again hthreshold hfirst hfixable rfl hprobe hsecond
  · rename_i hfixable
    rw [Bool.not_eq_true] at hfixable
    have honce := Optimized.once hthreshold hfirst hfixable
    split
    · rename_i hmany
      refine Stage.ensures_note ?_
      simpa [outcomeNotices, hmany] using honce
    · rename_i hfew
      refine Stage.ensures_pure ?_
      simpa [outcomeNotices, hfew] using honce

/-! ## What a region search reads -/

section

variable {reads : Reads R} {P : Journal → Prop} {entries : Journal}

/-- What holds of every reading of a search holds of the search. -/
theorem HighSearched.of_reads {tolerance midEff slopeBelow : R} {mid depth : Nat}
    {points : List Nat} {result : Except (CalibrationError R) (Region R)}
    (h : HighSearched reads tolerance mid midEff slopeBelow points depth result entries)
    (hnil : P []) (happend : ∀ entries later, P entries → P later → P (entries ++ later))
    (hreads : ∀ trim ∈ points, ∀ result entries, reads trim result entries → P entries) :
    P entries := by
  induction h with
  | exhausted => exact hnil
  | failed hread | agreed hread => exact hreads _ List.mem_cons_self _ _ hread
  | next hread _ _ ih =>
    refine happend _ _ (hreads _ List.mem_cons_self _ _ hread) (ih fun trim hmem ↦ ?_)
    exact hreads trim (List.mem_cons_of_mem _ hmem)

theorem RegionSearched.of_reads {result : Except (CalibrationError R) (Region R)}
    (h : RegionSearched reads settings result entries) (hnil : P [])
    (happend : ∀ entries later, P entries → P later → P (entries ++ later))
    (hlow : ∀ result entries, reads settings.low result entries → P entries)
    (hmid : ∀ result entries, reads settings.mid result entries → P entries)
    (hhigh : ∀ trim ∈ highPoints settings.mid (min settings.high settings.trimMax),
      ∀ result entries, reads trim result entries → P entries) : P entries := by
  cases h with
  | lowFailed low => exact hlow _ _ low
  | midFailed low mid | tooNarrow low mid => exact happend _ _ (hlow _ _ low) (hmid _ _ mid)
  | searched low mid _ search =>
    exact happend _ _ (happend _ _ (hlow _ _ low) (hmid _ _ mid))
      (search.of_reads hnil happend hhigh)

/-- A region ends at a point that was tried, if it is usable at all. -/
theorem HighSearched.region {tolerance midEff slopeBelow : R} {mid depth : Nat} {points : List Nat}
    {result : Except (CalibrationError R) (Region R)}
    (h : HighSearched reads tolerance mid midEff slopeBelow points depth result entries)
    {region : Region R} (hresult : result = .ok region) :
    region.midEff = midEff ∧ (region.trimMax = 0 ∨ region.trimMax ∈ points) := by
  induction h with
  | exhausted =>
    obtain rfl := Except.ok.inj hresult
    exact ⟨rfl, .inl rfl⟩
  | failed => cases hresult
  | agreed =>
    obtain rfl := Except.ok.inj hresult
    rw [Region.upTo]
    split
    · exact ⟨rfl, .inl rfl⟩
    · exact ⟨rfl, .inr List.mem_cons_self⟩
  | next _ _ _ ih =>
    obtain ⟨hmid, hpoint⟩ := ih hresult
    exact ⟨hmid, hpoint.imp_right (List.mem_cons_of_mem _)⟩

/-- The effective threshold of a region is the one read at mid trim. -/
theorem RegionSearched.region {region : Region R}
    (h : RegionSearched reads settings (.ok region) entries) :
    (∃ before own after, entries = before ++ own ++ after ∧
      reads settings.mid (.ok region.midEff) own) ∧
    (region.trimMax = 0 ∨
      region.trimMax ∈ highPoints settings.mid (min settings.high settings.trimMax)) := by
  cases h with
  | tooNarrow _ mid => exact ⟨⟨_, _, [], (List.append_nil _).symm, mid⟩, .inl rfl⟩
  | searched _ mid _ search =>
    obtain ⟨hmid, hpoint⟩ := search.region rfl
    exact ⟨⟨_, _, _, rfl, hmid ▸ mid⟩, hpoint⟩

end

/-! ## What the trim stage keeps -/

omit [Scalar R] in
theorem exists_result {all : List (Settled R)} {result : TrimResult R}
    (h : (all.map Settled.result)[channel]?.join = some result) :
    ∃ settled, all[channel]? = some settled ∧ settled.result = some result := by
  rw [List.getElem?_map] at h
  cases hsettled : all[channel]? with
  | none => simp [hsettled] at h
  | some settled => exact ⟨settled, rfl, by simpa [hsettled] using h⟩

theorem trimMax_ne_zero {region : Region R} (h : region.isUsable = true) : region.trimMax ≠ 0 := by
  intro hzero
  simp [Region.isUsable, hzero] at h

/-- Trims a pass may set on a channel. -/
inductive PassTrim (settings : TrimSettings R) : Nat → Prop
  | low : PassTrim settings settings.low
  | mid : PassTrim settings settings.mid
  | high {trim : Nat}
    (hpoint : trim ∈ highPoints settings.mid (min settings.high settings.trimMax)) :
    PassTrim settings trim
  | chosen {top : Nat} (channelEff deviceEff slope : R)
    (hpoint : top ∈ highPoints settings.mid (min settings.high settings.trimMax)) :
    PassTrim settings (chooseTrim channelEff deviceEff slope settings.mid top)

variable {remit : Remit} {entries : Journal} {after : Context R} {found : Option (Region R)}
  {settled : Settled R} {deviceEff : R}

theorem EffRead.asks {key : ChannelKey} {baseline : R} {trim : Nat}
    {result : Except (CalibrationError R) R}
    (h : EffRead bench key dac baseline trim result entries) :
    entries.Asks ⟨key, .threshold dac trim, max bench.sampling.sampleCount 1⟩ := by
  cases h with
  | read hlevel | failed hlevel => exact hlevel.asks

/-- A search for a region reads its own channel and masks none. -/
theorem RegionSearched.concerns {key : ChannelKey} {baseline : R}
    {result : Except (CalibrationError R) (Region R)}
    (h : RegionSearched (EffRead bench key dac baseline) settings result entries) :
    entries.Concerns key.channel ∧ entries.maskings = [] := by
  have hread : ∀ trim result entries, EffRead bench key dac baseline trim result entries →
      entries.Concerns key.channel ∧ entries.maskings = [] :=
    fun _ _ _ h ↦ ⟨h.asks.concerns, h.asks.maskings⟩
  refine h.of_reads (P := fun entries ↦ entries.Concerns key.channel ∧ entries.maskings = [])
    ⟨Journal.concerns_nil, rfl⟩ ?_ (hread _) (hread _) fun trim _ ↦ hread trim
  intro entries later hentries hlater
  rw [Journal.concerns_append, Journal.maskings_append, hentries.2, hlater.2]
  exact ⟨⟨hentries.1, hlater.1⟩, rfl⟩

theorem RegionFound.replay
    (h : RegionFound bench settings dac channel context found entries after) :
    after = context.replay entries := by
  cases h with
  | masked => rfl
  | found _ search => rw [Context.replay_of_maskings_eq_nil search.concerns.2]
  | failed _ search =>
    rw [Context.replay_append, Context.replay_of_maskings_eq_nil search.concerns.2]
    rfl

theorem regions_replay {channels : List Nat} {regions : List (Option (Region R))}
    (h : Chain (RegionFound bench settings dac) channels context regions entries after) :
    after = context.replay entries :=
  h.replay id fun _ _ _ _ _ hstep ↦ hstep.replay

theorem regionFound_takesOne : TakesOne id id (RegionFound bench settings dac) := by
  intro channel context found entries after h
  refine ⟨?_, congrArg Context.mask h.replay⟩
  cases h with
  | masked => exact Journal.concerns_nil
  | found _ search => exact search.concerns.1
  | failed _ search =>
    rw [Journal.concerns_append]
    exact ⟨search.concerns.1, by simp [Entry.Concerns]⟩

theorem RegionFound.follows (h : RegionFound bench settings dac channel context found entries after)
    (hinside : channel < context.spec.channels)
    (hdac : ∀ trim, PassTrim settings trim → remit.Allows (.threshold dac trim))
    (hnoData : remit.masking channel .noData) : context.Follows remit entries after := by
  have hsearch : ∀ {result entries}, context.mask.isMasked channel = false →
      RegionSearched (EffRead bench (context.channelKey channel) dac
        (context.baseline channel).median) settings result entries →
      context.Follows remit entries context := by
    intro result entries hmasked h
    have hread : ∀ trim, PassTrim settings trim → ∀ result entries,
        EffRead bench (context.channelKey channel) dac (context.baseline channel).median trim result
          entries → context.Follows remit entries context :=
      fun trim htrim result entries h ↦ h.asks.follows ⟨rfl, hinside, hmasked⟩ (hdac trim htrim _ _)
    exact h.of_reads (P := fun entries ↦ context.Follows remit entries context) .refl
      (fun _ _ ↦ .trans) (hread _ .low) (hread _ .mid) fun trim hmem ↦ hread trim (.high hmem)
  cases h with
  | masked => exact .refl
  | found hmasked search => exact hsearch hmasked search
  | failed hmasked search =>
    refine (hsearch hmasked search).trans ((Context.follows_notice _).trans ?_)
    exact Context.follows_masked hnoData

/-- A region that was found leaves its channel in use, and ends at a point that was tried. -/
theorem RegionFound.some {region : Region R}
    (h : RegionFound bench settings dac channel context (some region) entries after) :
    context.mask.isMasked channel = false ∧ after = context ∧
      RegionSearched (EffRead bench (context.channelKey channel) dac
        (context.baseline channel).median) settings (.ok region) entries := by
  cases h with
  | found hmasked search => exact ⟨hmasked, rfl, search⟩

variable {region : Region R} {trim : Nat} {foundAt : Option (Region R) × Nat}

theorem SettledAt.replay
    (h : SettledAt bench settings dac pass region channel trim context settled entries after) :
    entries.Concerns channel ∧ after = context.replay entries := by
  cases h with
  | unread hlevel | below hlevel =>
    rw [Journal.concerns_append, Context.replay_append,
      Context.replay_of_maskings_eq_nil hlevel.asks.maskings]
    exact ⟨⟨hlevel.asks.concerns, by simp [Entry.Concerns]⟩, rfl⟩
  | short hlevel | aligned hlevel =>
    exact ⟨hlevel.asks.concerns, (Context.replay_of_maskings_eq_nil hlevel.asks.maskings).symm⟩

theorem SettledAs.replay
    (h : SettledAs bench settings dac pass deviceEff foundAt context settled entries after) :
    entries.Concerns foundAt.2 ∧ after = context.replay entries := by
  cases h with
  | absent | leftAtMid => exact ⟨Journal.concerns_nil, rfl⟩
  | tried _ settle => exact settle.replay

theorem settles_replay {regions : List (Option (Region R) × Nat)} {all : List (Settled R)}
    (h : Chain (SettledAs bench settings dac pass deviceEff) regions context all entries after) :
    after = context.replay entries :=
  h.replay id fun _ _ _ _ _ hstep ↦ hstep.replay.2

theorem settledAs_takesOne :
    TakesOne id Prod.snd (SettledAs bench settings dac pass deviceEff) :=
  fun _ _ _ _ _ h ↦ ⟨h.replay.1, congrArg Context.mask h.replay.2⟩

theorem SettledAt.follows
    (h : SettledAt bench settings dac pass region channel trim context settled entries after)
    (haddress : ∀ count, Request.Addresses ⟨context.channelKey channel, .threshold dac trim, count⟩
      context.spec context.mask) (hdac : remit.Allows (.threshold dac trim))
    (hnoData : remit.masking channel .noData) (hbelow : remit.masking channel .belowBaseline) :
    context.Follows remit entries after := by
  cases h with
  | unread hlevel =>
    refine (hlevel.asks.follows (haddress _) (hdac _ _)).trans ?_
    exact (Context.follows_notice _).trans (Context.follows_masked hnoData)
  | below hlevel =>
    refine (hlevel.asks.follows (haddress _) (hdac _ _)).trans ?_
    exact (Context.follows_notice _).trans (Context.follows_masked hbelow)
  | short hlevel | aligned hlevel => exact hlevel.asks.follows (haddress _) (hdac _ _)

/-- A channel with a region was in use when the search came to it and is in use after the search. -/
theorem exists_search {regions : List (Option (Region R))} {channels : Nat}
    (h : Chain (RegionFound bench settings dac) (List.range channels) context regions entries after)
    (hregion : regions[channel]? = some (some region)) :
    channel < channels ∧ context.mask.isMasked channel = false ∧
      after.mask.isMasked channel = false ∧
      ∃ before own later, entries = before ++ own ++ later ∧
        (context.mask.replay before).isMasked channel = false ∧
        RegionSearched (EffRead bench (context.channelKey channel) dac
          (context.baseline channel).median) settings (.ok region) own := by
  have hlt := h.lt_of_getElem? hregion
  obtain ⟨found, before, own, later, k₁, k₂, hfound, rfl, hown, hstart, hend, _, hbefore⟩ :=
    h.turn_range regionFound_takesOne hlt
  obtain rfl : found = some region := Option.some.inj (hfound.symm.trans hregion)
  obtain ⟨hmasked, rfl, hsearch⟩ := hown.some
  obtain rfl : k₂ = context.replay before := regions_replay hbefore
  dsimp only [id] at hstart hend
  refine ⟨hlt, ?_, ?_, before, own, later, rfl, hmasked, hsearch⟩
  · rw [ChannelMask.isMasked, ← hstart]
    exact hmasked
  · rw [ChannelMask.isMasked, hend]
    exact hmasked

omit [Scalar R] in
theorem nodup_map_snd_zipIdx (regions : List (Option (Region R))) :
    (regions.zipIdx.map Prod.snd).Nodup := by
  rw [List.zipIdx_map_snd]
  exact List.nodup_range'

/-- How a channel was settled: in a context in which only masks have been added since the search,
and for good. -/
theorem exists_settled {regions : List (Option (Region R))} {all : List (Settled R)}
    (h : Chain (SettledAs bench settings dac pass deviceEff) regions.zipIdx context all entries
      after)
    (hsettled : all[channel]? = some settled) :
    ∃ found before own later k₁ k₂, regions[channel]? = some found ∧
      entries = before ++ own ++ later ∧ k₁ = context.replay before ∧
      SettledAs bench settings dac pass deviceEff (found, channel) k₁ settled own k₂ ∧
      k₁.mask.reason channel = context.mask.reason channel ∧
      after.mask.reason channel = k₂.mask.reason channel ∧
      ∀ request ∈ later.requests, request.channel.channel ≠ channel := by
  obtain ⟨foundAt, hfoundAt⟩ := h.exists_getElem? hsettled
  rw [List.getElem?_zipIdx, Option.map_eq_some_iff] at hfoundAt
  obtain ⟨found, hregion, rfl⟩ := hfoundAt
  have hfound : regions.zipIdx[channel]? = some (found, channel) := by
    rw [List.getElem?_zipIdx, hregion, Option.map_some, Nat.zero_add]
  obtain ⟨_, before, own, later, k₁, k₂, hsettled', rfl, hown, hstart, hend, hlater, hbefore⟩ :=
    h.turn settledAs_takesOne (nodup_map_snd_zipIdx regions) hfound
  obtain rfl := Option.some.inj (hsettled.symm.trans hsettled')
  exact ⟨found, before, own, later, k₁, k₂, hregion, rfl, settles_replay hbefore, hown, hstart,
    hend, hlater⟩

theorem settles_follow {regions : List (Option (Region R))} {settled : List (Settled R)}
    (h : Chain (SettledAs bench settings dac pass deviceEff) regions.zipIdx context settled entries
      after)
    (hregions : ∀ channel region, regions[channel]? = some (some region) →
      channel < context.spec.channels ∧ context.mask.isMasked channel = false ∧
      (region.trimMax = 0 ∨
        region.trimMax ∈ highPoints settings.mid (min settings.high settings.trimMax)))
    (hdac : ∀ trim, PassTrim settings trim → remit.Allows (.threshold dac trim))
    (hnoData : remit.Masks .noData) (hbelow : remit.Masks .belowBaseline) :
    context.Follows remit entries after := by
  refine h.follows_each settledAs_takesOne (nodup_map_snd_zipIdx regions) ?_
  rintro ⟨_ | region, channel⟩ hmem before k₁ settled own k₂ hbefore hreason hstep
  · cases hstep
    exact .refl
  · obtain ⟨hinside, hunmasked, htrimMax⟩ :=
      hregions channel region (List.mem_zipIdx_iff_getElem?.mp hmem)
    cases hstep with
    | leftAtMid => exact .refl
    | tried husable settle =>
      -- earlier turns mask other channels only, so this one is in use as it was for its search
      have hpoint := htrimMax.resolve_left (trimMax_ne_zero husable)
      refine settle.follows (fun count ↦ ⟨rfl, hbefore.spec ▸ hinside, ?_⟩)
        (hdac _ (.chosen _ _ _ hpoint)) (hnoData channel) (hbelow channel)
      rw [ChannelMask.isMasked]
      exact hreason ▸ hunmasked

/-- A pass reads channels in use at the trims it may set, and masks those that do not answer or lie
below their baseline. -/
theorem PassRun.follows {result : Except (CalibrationError R) (PassOutcome R)}
    (h : PassRun bench settings dac pass context result entries after)
    (hdac : ∀ trim, PassTrim settings trim → remit.Allows (.threshold dac trim))
    (hnoData : remit.Masks .noData) (hbelow : remit.Masks .belowBaseline) :
    context.Follows remit entries after := by
  have hsearches : ∀ {regions entries between},
      Chain (RegionFound bench settings dac) (List.range context.spec.channels) (cleared context)
        regions entries between → (cleared context).Follows remit entries between := by
    intro regions entries between h
    refine h.follows id fun channel hmem before k₁ found own k₂ hbefore hstep ↦ ?_
    exact hstep.follows (hbefore.spec ▸ List.mem_range.mp hmem) hdac (hnoData channel)
  have hcleared : context.Follows remit [] (cleared context) := ⟨trivial, rfl, rfl, rfl, rfl⟩
  cases h with
  | noRegion search => exact hcleared.trans (hsearches search)
  | @done regions deviceEff _ _ _ between _ search _ settle =>
    have hsearch := hcleared.trans (hsearches search)
    have hstart : context.Follows remit _ { between with mid := some (midOf regions deviceEff) } :=
      hsearch.filled rfl rfl rfl rfl
    have hsettle := settles_follow settle (fun channel region hregion ↦ ?_) hdac hnoData hbelow
    · exact (hstart.trans hsettle).filled rfl rfl rfl rfl
    · obtain ⟨hinside, _, hunmasked, _, _, _, _, _, hregion⟩ := exists_search search hregion
      exact ⟨hsearch.spec ▸ hinside, hunmasked, hregion.region.2⟩

/-- A pass fills in the mask, the trims and the thresholds at mid trim. -/
theorem PassRun.replay {result : Except (CalibrationError R) (PassOutcome R)}
    (h : PassRun bench settings dac pass context result entries after) :
    after = { context.replay entries with trims := after.trims, mid := after.mid } := by
  cases h with
  | noRegion search =>
    rw [regions_replay search]
    rfl
  | done search _ settle =>
    rw [settles_replay settle, regions_replay search, Context.replay_append]
    rfl

section

variable {result : Except (CalibrationError R) (PassOutcome R)}

theorem PassRun.spec (h : PassRun bench settings dac pass context result entries after) :
    after.spec = context.spec := by
  rw [h.replay]
  rfl

theorem PassRun.thdacMax (h : PassRun bench settings dac pass context result entries after) :
    after.thdacMax = context.thdacMax := by
  rw [h.replay]
  rfl

theorem PassRun.trimMid (h : PassRun bench settings dac pass context result entries after) :
    after.trimMid = context.trimMid := by
  rw [h.replay]
  rfl

theorem PassRun.baselines (h : PassRun bench settings dac pass context result entries after) :
    after.baselines = context.baselines := by
  rw [h.replay]
  rfl

theorem PassRun.mask (h : PassRun bench settings dac pass context result entries after) :
    after.mask = context.mask.replay entries :=
  congrArg Context.mask h.replay

theorem PassRun.fits (h : PassRun bench settings dac pass context result entries after)
    (hfits : context.Fits) : after.Fits := by
  rw [Context.Fits, h.mask, h.spec]
  exact Context.fits_replay hfits

end

/-- The trim stage moves the register to one place at most. -/
theorem Optimized.follows {result : Except (CalibrationError R) Unit}
    (h : Optimized bench settings context result entries after) (hfits : context.Fits)
    (hkept : ∀ constants, context.threshold = some constants →
      ∀ trim, PassTrim settings trim → remit.Allows (.threshold constants.dac trim))
    (hraised : ∀ (constants : ThresholdConstants R) bumps, ∀ trim,
      trim = context.trimMid ∨ PassTrim settings trim →
        remit.Allows (.threshold (raisedForBumps constants bumps context.thdacMax) trim))
    (hnoData : remit.Masks .noData) (hbelow : remit.Masks .belowBaseline) :
    context.Follows remit entries after := by
  cases h with
  | noThreshold => exact .refl
  | firstFailed hthreshold first => exact first.follows (hkept _ hthreshold) hnoData hbelow
  | once hthreshold first =>
    exact (first.follows (hkept _ hthreshold) hnoData hbelow).trans (Context.follows_notices _)
  | unrealized hthreshold first _ probe =>
    have hfirst := first.follows (hkept _ hthreshold) hnoData hbelow
    refine hfirst.trans (probe.follows (hfirst.fits hfits) ?_)
    rw [hfirst.thdacMax, hfirst.trimMid]
    exact hraised _ _ _ (.inl rfl)
  | @secondFailed constants _ dac realized _ _ _ _ between _ hthreshold first _ hdac probe second
  | @again constants _ _ dac realized _ _ _ between _ hthreshold first _ hdac probe second =>
    have hfirst := first.follows (hkept _ hthreshold) hnoData hbelow
    rw [hfirst.thdacMax] at hdac
    -- the probe and the second pass share the raised register
    have hagain : ∀ trim, trim = context.trimMid ∨ PassTrim settings trim →
        remit.Allows (.threshold dac trim) := hdac ▸ hraised constants _
    have hprobe := probe.follows (hfirst.fits hfits) (hfirst.trimMid ▸ hagain _ (.inl rfl))
    have hstart : context.Follows remit _ (reentered between constants dac realized) :=
      (hfirst.trans hprobe).filled rfl rfl rfl rfl
    exact hstart.trans (second.follows (fun trim htrim ↦ hagain trim (.inr htrim)) hnoData hbelow)

theorem Optimized.replay {result : Except (CalibrationError R) Unit}
    (h : Optimized bench settings context result entries after) :
    after = { context.replay entries with
      trims := after.trims, mid := after.mid, threshold := after.threshold
      secondPass := after.secondPass } := by
  cases h with
  | noThreshold => rfl
  | firstFailed _ first => rw [first.replay]
  | once _ first =>
    rw [Context.replay_append, Context.replay_of_maskings_eq_nil (Journal.maskings_notices _),
      first.replay]
  | unrealized _ first _ probe =>
    rw [Context.replay_append, Context.replay_of_maskings_eq_nil probe.maskings, first.replay]
  | secondFailed _ first _ _ probe second | again _ first _ _ probe second =>
    rw [Context.replay_append, Context.replay_append,
      Context.replay_of_maskings_eq_nil probe.maskings, second.replay, reentered, first.replay]
    rfl

end ThresholdTrim.Trim
