import ThresholdTrim.Proofs.BelowBaseline
import ThresholdTrim.Proofs.FinalContext
import ThresholdTrim.Proofs.Steady

/-!
# A pass over a steady device

When the levels of the channels in use are known, because every reading of a channel at a trim can
only come out one way (`Bench.Reads`), what a pass makes of a channel is a function of the channel's
levels: its region (`Trim.regionOf`) and, unless the channel is masked for lying below its baseline,
its trim (`Trim.resultOf`). The courses of the trim stage already say which answers were possible,
so there is one answer left for each of them.

On a steady front-end a level depends on nothing but channel, register and trim.
-/

namespace ThresholdTrim

open Scalar Statistics Sampler

variable {σ R : Type} {bench : Bench σ R} {respond : Request → List Nat}

/-- The channel is one of the device and not masked. -/
def Context.InUse (context : Context R) (channel : Nat) : Prop :=
  channel < context.spec.channels ∧ context.mask.isMasked channel = false

/-! ## Levels -/

/-- Level of a steady device: the median of the batch it answers with. -/
def Bench.level [Scalar R] (bench : Bench σ R) (respond : Request → List Nat)
    (channel : ChannelKey) (setting : Setting) : R :=
  ofCount ((median (respond ⟨channel, setting, max bench.sampling.sampleCount 1⟩)).getD 0)

/-- A channel is read at this level, whenever it is read. -/
def Bench.Reads [Scalar R] (bench : Bench σ R) (channel : ChannelKey) (setting : Setting)
    (level : R) : Prop :=
  ∀ result entries, LevelRead bench channel setting result entries → result = .ok level

namespace Sampler

variable {request : Request} {entries : Journal} {P : List Nat → Prop}

/-- When every answer is a batch of some kind, the attempts end with a batch of that kind. -/
theorem Tried.exists_batch {further : Nat} {result : Except String (List Nat)}
    (h : Tried bench request further result entries)
    (hanswer : ∀ answer, bench.Answers request answer →
      ∃ batch, answer = .ok batch ∧ batch ≠ [] ∧ P batch) :
    ∃ batch, result = .ok batch ∧ P batch := by
  have husable : ∀ answer, bench.Answers request answer →
      ∃ batch, usable answer = .ok batch ∧ P batch := by
    intro answer h
    obtain ⟨batch, rfl, hbatch, hP⟩ := hanswer answer h
    exact ⟨batch, usable_of_ne_nil hbatch, hP⟩
  cases h with
  | last h => exact husable _ h
  | found h hbatch => exact hbatch ▸ husable _ h
  | again h hfault =>
    obtain ⟨_, hbatch, _⟩ := husable _ h
    exact nomatch hfault.symm.trans hbatch

theorem Acquired.exists_batch {result : Except (CalibrationError R) (List Nat)}
    (h : Acquired bench request result entries)
    (hanswer : ∀ answer, bench.Answers request answer →
      ∃ batch, answer = .ok batch ∧ batch ≠ [] ∧ P batch) :
    ∃ batch, result = .ok batch ∧ P batch := by
  cases h with
  | whole tried | short tried =>
    obtain ⟨batch, hresult, hP⟩ := tried.exists_batch hanswer
    exact ⟨batch, congrArg Except.ok (Except.ok.inj hresult), hP⟩
  | givenUp tried =>
    obtain ⟨_, hresult, _⟩ := tried.exists_batch hanswer
    cases hresult

end Sampler

/-- A channel that answers every nominal request with samples of one median is read at it. -/
theorem Bench.reads_of_median [Scalar R] {channel : ChannelKey} {setting : Setting} {level : R}
    (h : ∀ state, ∃ batch m, (bench.frontEnd.acquire
      ⟨channel, setting, max bench.sampling.sampleCount 1⟩ state).1 = .ok batch ∧
        median batch = some m ∧ ofCount m = level) : bench.Reads channel setting level := by
  have hanswer : ∀ answer, bench.Answers ⟨channel, setting, max bench.sampling.sampleCount 1⟩
      answer → ∃ batch, answer = .ok batch ∧ batch ≠ [] ∧
        ∃ m, median batch = some m ∧ ofCount m = level := by
    rintro _ ⟨state, rfl⟩
    obtain ⟨batch, m, hbatch, hmedian, hlevel⟩ := h state
    refine ⟨batch, hbatch, ?_, m, hmedian, hlevel⟩
    rintro rfl
    simp [median, medianBy] at hmedian
  intro result entries hread
  cases hread with
  | read acquired hcount =>
    obtain ⟨_, hbatch, m, hmedian, hlevel⟩ := acquired.exists_batch hanswer
    obtain rfl := Except.ok.inj hbatch
    rw [Option.some.inj (hcount.symm.trans hmedian), hlevel]
  | failed acquired =>
    obtain ⟨_, hbatch, _⟩ := acquired.exists_batch hanswer
    cases hbatch

theorem FrontEnd.IsSteady.reads [Scalar R] (hsteady : bench.frontEnd.IsSteady respond)
    (channel : ChannelKey) (setting : Setting) :
    bench.Reads channel setting (bench.level respond channel setting) := by
  have hbatch := hsteady.ne_nil ⟨channel, setting, max bench.sampling.sampleCount 1⟩
    (show max bench.sampling.sampleCount 1 ≠ 0 by omega)
  obtain ⟨m, hmedian⟩ := exists_median hbatch
  rw [Bench.level, hmedian]
  exact Bench.reads_of_median fun state ↦ ⟨_, m, hsteady.answer _ state, hmedian, rfl⟩

/-! ## Regions -/

/-- Steps that leave the state alone and come out one way only. -/
theorem Chain.eq_map {β γ κ : Type} {step : β → κ → γ → Journal → κ → Prop} {f : β → γ}
    {xs : List β} {ys : List γ} {entries : Journal} {k k' : κ}
    (h : Chain step xs k ys entries k')
    (hstep : ∀ x ∈ xs, ∀ y entries k', step x k y entries k' → k' = k ∧ y = f x) :
    k' = k ∧ ys = xs.map f := by
  induction h with
  | nil => exact ⟨rfl, rfl⟩
  | cons head _ ih =>
    obtain ⟨rfl, rfl⟩ := hstep _ List.mem_cons_self _ _ _ head
    obtain ⟨rfl, rfl⟩ := ih fun x hx ↦ hstep x (List.mem_cons_of_mem _ hx)
    exact ⟨rfl, rfl⟩

namespace Trim

variable [Scalar R] {settings : TrimSettings R} {context after : Context R} {dac channel : Nat}
  {pass : Pass} {entries : Journal}

section

variable {reads : Reads R} {eff : Nat → R} {result : Except (CalibrationError R) (Region R)}

/-- When a reading can only come out one way, so can a search. -/
theorem HighSearched.eq_ok {tolerance midEff slopeBelow : R} {mid depth : Nat} {points : List Nat}
    (h : HighSearched reads tolerance mid midEff slopeBelow points depth result entries)
    (hreads : ∀ trim ∈ points, ∀ result entries, reads trim result entries →
      result = .ok (eff trim)) :
    result = .ok (searchHigh (m := Id) eff tolerance mid midEff slopeBelow points depth) := by
  induction h with
  | exhausted => rfl
  | failed hread => exact nomatch hreads _ List.mem_cons_self _ _ hread
  | agreed hread hslopes =>
    obtain rfl := Except.ok.inj (hreads _ List.mem_cons_self _ _ hread)
    exact congrArg Except.ok (if_pos hslopes).symm
  | next hread hslopes _ ih =>
    obtain rfl := Except.ok.inj (hreads _ List.mem_cons_self _ _ hread)
    have hrest := ih fun trim hmem ↦ hreads trim (List.mem_cons_of_mem _ hmem)
    exact hrest.trans (congrArg Except.ok (if_neg (Bool.eq_false_iff.mp hslopes)).symm)

theorem RegionSearched.eq_ok (h : RegionSearched reads settings result entries)
    (hreads : ∀ trim, PassTrim settings trim → ∀ result entries, reads trim result entries →
      result = .ok (eff trim)) :
    result = .ok (findRegion (m := Id) eff settings) := by
  cases h with
  | lowFailed hlow => exact nomatch hreads _ .low _ _ hlow
  | midFailed _ hmid => exact nomatch hreads _ .mid _ _ hmid
  | tooNarrow _ hmid hrange =>
    obtain rfl := Except.ok.inj (hreads _ .mid _ _ hmid)
    exact congrArg Except.ok (if_pos hrange).symm
  | searched hlow hmid hrange search =>
    obtain rfl := Except.ok.inj (hreads _ .low _ _ hlow)
    obtain rfl := Except.ok.inj (hreads _ .mid _ _ hmid)
    have hsearch := search.eq_ok fun trim hmem ↦ hreads trim (.high hmem)
    exact hsearch.trans (congrArg Except.ok (if_neg hrange).symm)

end

/-- Region of a channel with these levels. -/
def regionOf (settings : TrimSettings R) (level : Nat → R) (baseline : R) : Region R :=
  findRegion (m := Id) (fun trim ↦ level trim - baseline) settings

/-- Levels of the channels in use, channel by channel, at the trims a pass may set. -/
def HasLevels (bench : Bench σ R) (settings : TrimSettings R) (context : Context R) (dac : Nat)
    (level : Nat → Nat → R) : Prop :=
  ∀ channel, context.InUse channel → ∀ trim, PassTrim settings trim →
    bench.Reads (context.channelKey channel) (.threshold dac trim) (level channel trim)

/-- Region of a channel on a device with these levels, none for a channel out of use. -/
def regionBy (settings : TrimSettings R) (context : Context R) (level : Nat → Nat → R)
    (channel : Nat) : Option (Region R) :=
  if context.mask.isMasked channel then none
  else some (regionOf settings (level channel) (context.baseline channel).median)

/-- Regions of all channels, each at its place. -/
def regionsBy (settings : TrimSettings R) (context : Context R) (level : Nat → Nat → R) :
    List (Option (Region R)) :=
  (List.range context.spec.channels).map (regionBy settings context level)

variable {level : Nat → Nat → R}

theorem RegionFound.eq_regionBy {found : Option (Region R)}
    (h : RegionFound bench settings dac channel context found entries after)
    (hlevels : HasLevels bench settings context dac level)
    (hinside : channel < context.spec.channels) :
    after = context ∧ found = regionBy settings context level channel := by
  have hsearch : ∀ {result entries}, context.mask.isMasked channel = false →
      RegionSearched (EffRead bench (context.channelKey channel) dac
        (context.baseline channel).median) settings result entries →
      result = .ok (regionOf settings (level channel) (context.baseline channel).median) := by
    intro result entries hmasked h
    refine h.eq_ok fun trim htrim result entries hread ↦ ?_
    have hlevel := hlevels channel ⟨hinside, hmasked⟩ trim htrim
    cases hread with
    | read hread => rw [Except.ok.inj (hlevel _ _ hread)]
    | failed hread => exact nomatch hlevel _ _ hread
  rw [regionBy]
  cases h with
  | masked hmasked => exact ⟨rfl, (if_pos hmasked).symm⟩
  | found hmasked search =>
    rw [if_neg (Bool.eq_false_iff.mp hmasked)]
    exact ⟨rfl, congrArg Option.some (Except.ok.inj (hsearch hmasked search))⟩
  | failed hmasked search => exact nomatch hsearch hmasked search

theorem regions_eq_regionsBy {regions : List (Option (Region R))}
    (h : Chain (RegionFound bench settings dac) (List.range context.spec.channels)
      (cleared context) regions entries after)
    (hlevels : HasLevels bench settings context dac level) :
    after = cleared context ∧ regions = regionsBy settings context level := by
  have hcleared : HasLevels bench settings (cleared context) dac level := hlevels
  exact h.eq_map fun channel hmem _ _ _ hstep ↦ hstep.eq_regionBy hcleared (List.mem_range.mp hmem)

/-- The effective thresholds at mid trim a pass takes the median of. -/
def midEffs (regions : List (Option (Region R))) : List R :=
  (regions.map fun region ↦ region.map (·.midEff)).filterMap id

/-! ## Trims -/

/-- Trim of a channel with these levels, unless it is taken out of use. -/
def resultOf (settings : TrimSettings R) (level : Nat → R) (baseline deviceEff : R) :
    TrimResult R :=
  let region := regionOf settings level baseline
  if region.isUsable then
    let trim := chooseTrim region.midEff deviceEff region.slope settings.mid region.trimMax
    ⟨region.slope, region.trimMax, trim, level trim - baseline, level trim⟩
  else ⟨ofCount 0, 0, settings.mid, region.midEff, region.midEff + baseline⟩

/-- What becomes of a channel in use: it gets its trim, or lies below its baseline there and is
masked for it. A channel with a usable response asks for what it is short of in a first pass, and
is never left short by a second one. -/
inductive Outcome (pass : Pass) (result : TrimResult R) (context : Context R) (channel : Nat) :
    Settled R → Context R → Prop
  | kept {settled : Settled R} (hresult : settled.result = some result)
    (hshort : result.trimMax ≠ 0 → lt result.eff (ofCount 0) = true →
      pass = .first ∧ settled.bump = some (-result.eff)) :
    Outcome pass result context channel settled context
  | dropped (husable : result.trimMax ≠ 0) (hnegative : lt result.eff (ofCount 0) = true) :
    Outcome pass result context channel .dropped
      (context.withMask (context.mask.mask channel .belowBaseline))

theorem SettledAs.outcome {deviceEff : R} {region : Region R} {settled : Settled R}
    {level : Nat → R}
    (h : SettledAs bench settings dac pass deviceEff (some region, channel) context settled entries
      after)
    (hreads : ∀ trim, PassTrim settings trim →
      bench.Reads (context.channelKey channel) (.threshold dac trim) (level trim))
    (hregion : region = regionOf settings level (context.baseline channel).median)
    (hpoint : region.trimMax = 0 ∨
      region.trimMax ∈ highPoints settings.mid (min settings.high settings.trimMax)) :
    Outcome pass (resultOf settings level (context.baseline channel).median deviceEff) context
      channel settled after := by
  rw [resultOf, ← hregion]
  cases h with
  | leftAtMid husable =>
    rw [if_neg (Bool.eq_false_iff.mp husable)]
    exact .kept rfl fun hne ↦ absurd rfl hne
  | tried husable settle =>
    rw [if_pos husable]
    have htrimMax := trimMax_ne_zero husable
    have hlevel := hreads _ (.chosen region.midEff deviceEff region.slope
      (hpoint.resolve_left htrimMax))
    cases settle with
    | unread hread => exact nomatch hlevel _ _ hread
    | below hread heff hnegative =>
      obtain rfl := Except.ok.inj (hlevel _ _ hread)
      subst heff
      exact .dropped htrimMax hnegative
    | short hread heff hnegative _ hpass =>
      obtain rfl := Except.ok.inj (hlevel _ _ hread)
      subst heff
      exact .kept rfl fun _ _ ↦ ⟨hpass, rfl⟩
    | aligned hread heff hnegative =>
      obtain rfl := Except.ok.inj (hlevel _ _ hread)
      subst heff
      exact .kept rfl fun _ h ↦ Bool.noConfusion (hnegative.symm.trans h)

/-! ## A whole pass -/

variable {outcome : PassOutcome R}

/-- What a pass leaves of a channel that was in use before it. -/
inductive Left (pass : Pass) (result : TrimResult R) (outcome : PassOutcome R) (after : Context R)
    (channel : Nat) : Prop
  | kept (htrim : after.trim channel = some result) (hinUse : after.InUse channel)
    (hshort : result.trimMax ≠ 0 → lt result.eff (ofCount 0) = true →
      pass = .first ∧ (channel, -result.eff) ∈ outcome.bumps)
  | dropped (husable : result.trimMax ≠ 0) (hnegative : lt result.eff (ofCount 0) = true)
    (hmasked : after.mask.isMasked channel = true)

/-- A pass over a device with known levels takes the median of their regions, and leaves of each
channel in use what its levels say. -/
theorem PassRun.left_of_levels
    (h : PassRun bench settings dac pass context (.ok outcome) entries after)
    (hlevels : HasLevels bench settings context dac level) (hfits : context.Fits) :
    ∃ deviceEff, scalarMedian (midEffs (regionsBy settings context level)) = some deviceEff ∧
      after.mid = some (midOf (regionsBy settings context level) deviceEff) ∧
      ∀ channel, context.InUse channel →
        Left pass (resultOf settings (level channel) (context.baseline channel).median deviceEff)
          outcome after channel := by
  have hspec := h.spec
  cases h with
  | @done regions deviceEff all searches settles between last search hmedian settle =>
    obtain ⟨rfl, rfl⟩ := regions_eq_regionsBy search hlevels
    have hmid : last.mid = some (midOf (regionsBy settings context level) deviceEff) := by
      rw [settles_replay settle]
      rfl
    refine ⟨deviceEff, hmedian, hmid, fun channel ⟨hinside, hinUse⟩ ↦ ?_⟩
    have hlength : all.length = context.spec.channels := by
      rw [settle.length_eq, List.length_zipIdx, search.length_eq, List.length_range]
    obtain ⟨settled, hsettled⟩ : ∃ settled, all[channel]? = some settled :=
      ⟨_, List.getElem?_eq_getElem (hlength.symm ▸ hinside)⟩
    obtain ⟨found, before, own, later, k₁, k₂, hfound, _, rfl, hstep, hstart, hend, _⟩ :=
      exists_settled settle hsettled
    -- earlier turns leave key and baseline of the channel alone
    have hregion : (regionsBy settings context level)[channel]? =
        some (some (regionOf settings (level channel) (context.baseline channel).median)) := by
      rw [regionsBy, List.getElem?_map, List.getElem?_range hinside, Option.map_some, regionBy,
        if_neg (Bool.eq_false_iff.mp hinUse)]
    obtain rfl := Option.some.inj (hregion.symm.trans hfound)
    obtain ⟨_, _, _, _, _, _, _, _, hsearched⟩ := exists_search search hregion
    have houtcome : Outcome pass
        (resultOf settings (level channel) (context.baseline channel).median deviceEff) _ channel
        settled k₂ := hstep.outcome (hlevels channel ⟨hinside, hinUse⟩) rfl hsearched.region.2
    have hmask : last.mask.isMasked channel = k₂.mask.isMasked channel := by
      rw [ChannelMask.isMasked, ChannelMask.isMasked, hend]
    cases houtcome with
    | kept hresult hshort =>
      refine .kept ?_ ⟨hspec.symm ▸ hinside, ?_⟩ fun husable hnegative ↦ ?_
      · rw [Context.trim, List.getElem?_map, hsettled]
        exact hresult
      · rw [hmask, ChannelMask.isMasked, hstart]
        exact hinUse
      · obtain ⟨hpass, hbump⟩ := hshort husable hnegative
        exact ⟨hpass, mem_bumps_iff.mpr ⟨_, hsettled, hbump⟩⟩
    | dropped husable hnegative =>
      refine .dropped husable hnegative (hmask.trans (ChannelMask.isMasked_mask ?_))
      rw [Context.length_reasons_replay]
      exact hfits.symm ▸ hinside

/-- A channel out of use before a pass gets no trim. -/
theorem PassRun.trim_eq_none
    (h : PassRun bench settings dac pass context (.ok outcome) entries after)
    (hfits : context.Fits) (hout : ¬context.InUse channel) : after.trim channel = none := by
  obtain ⟨hlength, hselects⟩ := (h.selects hfits).1
  cases htrim : after.trim channel with
  | none => rfl
  | some result =>
    have hinside : channel < context.spec.channels := by
      by_contra hbeyond
      rw [Context.trim, List.getElem?_eq_none (by omega)] at htrim
      cases htrim
    have hinUse := (hselects channel hinside).mp (by rw [← Context.trim, htrim]; rfl)
    rw [h.mask] at hinUse
    exact absurd ⟨hinside, ChannelMask.isMasked_of_replay hinUse⟩ hout

/-- A pass over a device with known levels fails only when no channel is in use. -/
theorem PassRun.regionsBy_of_error {cause : CalibrationError R}
    (h : PassRun bench settings dac pass context (.error cause) entries after)
    (hlevels : HasLevels bench settings context dac level) :
    scalarMedian (midEffs (regionsBy settings context level)) = none := by
  cases h with
  | noRegion search hmedian =>
    obtain ⟨rfl, rfl⟩ := regions_eq_regionsBy search hlevels
    exact hmedian

/-! ## Steady devices -/

/-- Level of a channel by trim. -/
def levelAt (bench : Bench σ R) (respond : Request → List Nat) (context : Context R)
    (dac channel trim : Nat) : R :=
  bench.level respond (context.channelKey channel) (.threshold dac trim)

theorem hasLevels_levelAt (hsteady : bench.frontEnd.IsSteady respond) :
    HasLevels bench settings context dac (levelAt bench respond context dac) :=
  fun _ _ _ _ ↦ hsteady.reads _ _

/-- Region of a channel, none for a channel out of use. -/
def regionAt (bench : Bench σ R) (respond : Request → List Nat) (settings : TrimSettings R)
    (context : Context R) (dac channel : Nat) : Option (Region R) :=
  if context.mask.isMasked channel then none
  else some (regionOf settings (levelAt bench respond context dac channel)
    (context.baseline channel).median)

/-- Regions of all channels, each at its place. -/
def regionsAt (bench : Bench σ R) (respond : Request → List Nat) (settings : TrimSettings R)
    (context : Context R) (dac : Nat) : List (Option (Region R)) :=
  (List.range context.spec.channels).map (regionAt bench respond settings context dac)

def resultAt (bench : Bench σ R) (respond : Request → List Nat) (settings : TrimSettings R)
    (context : Context R) (dac : Nat) (deviceEff : R) (channel : Nat) : TrimResult R :=
  resultOf settings (levelAt bench respond context dac channel) (context.baseline channel).median
    deviceEff

theorem PassRun.left (h : PassRun bench settings dac pass context (.ok outcome) entries after)
    (hsteady : bench.frontEnd.IsSteady respond) (hfits : context.Fits) :
    ∃ deviceEff, scalarMedian (midEffs (regionsAt bench respond settings context dac)) =
        some deviceEff ∧
      ∀ channel, context.InUse channel →
        Left pass (resultAt bench respond settings context dac deviceEff channel) outcome after
          channel := by
  obtain ⟨deviceEff, hmedian, _, hleft⟩ := h.left_of_levels (hasLevels_levelAt hsteady) hfits
  exact ⟨deviceEff, hmedian, hleft⟩

theorem PassRun.regionsAt_of_error {cause : CalibrationError R}
    (h : PassRun bench settings dac pass context (.error cause) entries after)
    (hsteady : bench.frontEnd.IsSteady respond) :
    scalarMedian (midEffs (regionsAt bench respond settings context dac)) = none :=
  h.regionsBy_of_error (hasLevels_levelAt hsteady)

end Trim

end ThresholdTrim
