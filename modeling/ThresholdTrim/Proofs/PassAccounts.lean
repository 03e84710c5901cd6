import ThresholdTrim.Proofs.BelowBaseline
import ThresholdTrim.Proofs.SteadyPass

/-!
# What a pass accounts for

A pass goes over the device twice, first for the regions and then for the trims chosen from them,
and masks channels on the way. Every channel that was in use before it has one fate. `Finding` is
what the pass finds out about a channel, `Ends` says what follows from it for mask, trim and mid
trim, and the counts of the pass are counts of fates.

Channels do not get in each other's way, and that is what makes the account possible: the readings
of a channel in either half are those of its own turn (`Chain.own_turn`), its reason before its turn
is the one from before the pass, and its reason after its turn is the one it is left with.
-/

namespace ThresholdTrim

open Scalar Statistics Sampler

variable {σ R : Type} {channel : Nat} {entries : Journal}

namespace Trim

/-! ## Findings and fates -/

/-- What a pass finds out about a channel: its region and, where that is usable, its level at the
trim chosen from it. -/
structure Finding (R : Type) where
  region : Except (CalibrationError R) (Region R)
  level : Except (CalibrationError R) R

/-- What can become of a channel in use. -/
inductive Fate
  /-- Its region search failed. -/
  | regionless
  /-- Its region is not usable. -/
  | leftAtMid
  /-- The reading at its trim failed. -/
  | unread
  /-- It lies below its baseline at its trim, too far for the pass. -/
  | dropped
  | trimmed
  deriving DecidableEq

variable [Scalar R] {bench : Bench σ R} {settings : TrimSettings R} {dac : Nat} {pass : Pass}
  {context after : Context R} {mid : MidTrim R}

/-- The searches bear the region out: there is one search of the channel, and all its readings are
of that search. -/
def SearchedIn (bench : Bench σ R) (settings : TrimSettings R) (dac : Nat) (context : Context R)
    (searches : Journal) (channel : Nat) (region : Except (CalibrationError R) (Region R)) : Prop :=
  ∃ own : Journal, own <:+: searches ∧ searches.readingsOf channel = own.readings ∧
    RegionSearched (EffRead bench (context.channelKey channel) dac
      (context.baseline channel).median) settings region own

/-- The readings after the searches bear the level out: it is the only one of the channel, at the
trim chosen from its region. -/
def LevelIn (bench : Bench σ R) (settings : TrimSettings R) (dac : Nat) (context : Context R)
    (deviceEff : R) (settles : Journal) (channel : Nat) (region : Region R)
    (level : Except (CalibrationError R) R) : Prop :=
  ∃ own : Journal, own <:+: settles ∧ settles.readingsOf channel = own.readings ∧
    LevelRead bench (context.channelKey channel) (.threshold dac
      (chooseTrim region.midEff deviceEff region.slope settings.mid region.trimMax)) level own

/-- How a channel that was in use ends, by what was found out about it: its reason to be out of use
if it is, its trim, and its value at mid trim. -/
inductive Ends (settings : TrimSettings R) (pass : Pass) (context after : Context R)
    (mid : MidTrim R) (channel : Nat) (finding : Finding R) : Fate → Prop
  | regionless {cause : CalibrationError R} (hregion : finding.region = .error cause)
    (hreason : after.mask.reason channel = some .noData) (htrim : after.trim channel = none)
    (hmid : mid.channelEff[channel]?.join = none) :
    Ends settings pass context after mid channel finding .regionless
  | leftAtMid {region : Region R} (hregion : finding.region = .ok region)
    (husable : region.isUsable = false) (hreason : after.mask.reason channel = none)
    (htrim : after.trim channel = some ⟨ofCount 0, 0, settings.mid, region.midEff,
      region.midEff + (context.baseline channel).median⟩)
    (hmid : mid.channelEff[channel]?.join = some region.midEff) :
    Ends settings pass context after mid channel finding .leftAtMid
  | unread {region : Region R} {cause : CalibrationError R}
    (hregion : finding.region = .ok region) (husable : region.isUsable = true)
    (hlevel : finding.level = .error cause) (hreason : after.mask.reason channel = some .noData)
    (htrim : after.trim channel = none)
    (hmid : mid.channelEff[channel]?.join = some region.midEff) :
    Ends settings pass context after mid channel finding .unread
  | dropped {region : Region R} {level eff : R}
    (hregion : finding.region = .ok region) (husable : region.isUsable = true)
    (hlevel : finding.level = .ok level) (heff : eff = level - (context.baseline channel).median)
    (hnegative : lt eff (ofCount 0) = true)
    (hdrop : lt (context.spec.flavor.toCounts settings.bumpCutoffMv) (-eff) = true ∨ pass = .second)
    (hreason : after.mask.reason channel = some .belowBaseline) (htrim : after.trim channel = none)
    (hmid : mid.channelEff[channel]?.join = some region.midEff) :
    Ends settings pass context after mid channel finding .dropped
  | trimmed {region : Region R} {level eff : R}
    (hregion : finding.region = .ok region) (husable : region.isUsable = true)
    (hlevel : finding.level = .ok level) (heff : eff = level - (context.baseline channel).median)
    (hkept : lt eff (ofCount 0) = true →
      lt (context.spec.flavor.toCounts settings.bumpCutoffMv) (-eff) = false ∧ pass = .first)
    (hreason : after.mask.reason channel = none)
    (htrim : after.trim channel = some ⟨region.slope, region.trimMax,
      chooseTrim region.midEff mid.deviceEff region.slope settings.mid region.trimMax, eff, level⟩)
    (hmid : mid.channelEff[channel]?.join = some region.midEff) :
    Ends settings pass context after mid channel finding .trimmed

/-- A channel has one fate. -/
theorem Ends.unique {finding : Finding R} {fate other : Fate}
    (h : Ends settings pass context after mid channel finding fate)
    (hother : Ends settings pass context after mid channel finding other) : fate = other := by
  cases h <;> cases hother <;> simp_all

/-- A trimmed channel is below its baseline in a first pass only, and within the cutoff. -/
theorem Ends.within {finding : Finding R} {result : TrimResult R}
    (h : Ends settings pass context after mid channel finding .trimmed)
    (hresult : after.trim channel = some result) (hnegative : lt result.eff (ofCount 0) = true) :
    lt (context.spec.flavor.toCounts settings.bumpCutoffMv) (-result.eff) = false ∧
      pass = .first := by
  cases h with
  | trimmed _ _ _ _ hkept _ htrim =>
    obtain rfl := Option.some.inj (htrim.symm.trans hresult)
    exact hkept hnegative

/-! ## One channel -/

/-- What a pass reports of a channel, and what became of it. -/
structure Reports (settled : Settled R) (fate : Fate) : Prop where
  region : settled.hasRegion = decide (fate ≠ .regionless)
  unusable : settled.isLeftAtMid = decide (fate = .leftAtMid)
  bump : ∀ bump, settled.bump = some bump ↔ fate = .trimmed ∧
    ∃ result, settled.result = some result ∧ lt result.eff (ofCount 0) = true ∧ bump = -result.eff

variable {regions : List (Option (Region R))} {all : List (Settled R)} {searches settles : Journal}
  {between last : Context R} {region : Except (CalibrationError R) (Region R)}
  {settled : Settled R}

variable {k k' : Context R} {own : Journal}

/-- The turns of a channel in both halves of a pass, and how it ends. -/
structure Turned (bench : Bench σ R) (settings : TrimSettings R) (dac : Nat) (pass : Pass)
    (context after : Context R) (mid : MidTrim R) (regions : List (Option (Region R)))
    (all : List (Settled R)) (searches settles : Journal) (channel : Nat) (finding : Finding R)
    (fate : Fate) (settled : Settled R) : Prop where
  searched : SearchedIn bench settings dac context searches channel finding.region
  found : regions[channel]? = some finding.region.toOption
  level : ∀ region, finding.region = .ok region → region.isUsable = true →
    LevelIn bench settings dac context mid.deviceEff settles channel region finding.level
  outcome : all[channel]? = some settled
  reports : Reports settled fate
  ends : Ends settings pass context after mid channel finding fate

/-- The two halves of a pass: all regions, then all trims around the median over the regions. -/
structure Halves (bench : Bench σ R) (settings : TrimSettings R) (dac : Nat) (pass : Pass)
    (context after : Context R) (mid : MidTrim R) (regions : List (Option (Region R)))
    (all : List (Settled R)) (searches settles : Journal) (between last : Context R) : Prop where
  search : Chain (RegionFound bench settings dac) (List.range context.spec.channels)
    (cleared context) regions searches between
  midEffs : mid.channelEff = regions.map fun region ↦ region.map (·.midEff)
  settle : Chain (SettledAs bench settings dac pass mid.deviceEff) regions.zipIdx
    { between with mid := some mid } all settles last
  after : after = { last with trims := all.map Settled.result }

/-- A channel that was out of use gets no region and no trim. -/
theorem Halves.absent
    (h : Halves bench settings dac pass context after mid regions all searches settles between last)
    (hinside : channel < context.spec.channels)
    (hmasked : context.mask.isMasked channel = true) :
    regions[channel]? = some none ∧ all[channel]? = some .absent := by
  have hregion : regions[channel]? = some none := by
    obtain ⟨found, _, _, _, hfound, _, hstep, hmasked, _⟩ :=
      h.search.own_turn_outOfUse regionFound_takesOne hinside hmasked
    cases hstep with
    | masked => exact hfound
    | found hinUse | failed hinUse => exact Bool.noConfusion (hinUse.symm.trans hmasked)
  have hfound : regions.zipIdx[channel]? = some (none, channel) := by
    rw [List.getElem?_zipIdx, hregion, Option.map_some, Nat.zero_add]
  obtain ⟨settled, _, _, _, _, _, hsettled, _, _, hstep, _⟩ := h.settle.split hfound
  cases hstep with
  | absent => exact ⟨hregion, hsettled⟩

/-! ## All channels -/

/-- The turns of all channels: a channel that was out of use is passed over in both halves. -/
structure Turns (bench : Bench σ R) (settings : TrimSettings R) (dac : Nat) (pass : Pass)
    (context after : Context R) (mid : MidTrim R) (regions : List (Option (Region R)))
    (all : List (Settled R)) (searches settles : Journal) (finding : Nat → Finding R)
    (fate : Nat → Fate) (settled : Nat → Settled R) : Prop where
  regionPlaces : regions.length = context.mask.reasons.length
  places : all.length = context.mask.reasons.length
  absent : ∀ channel < context.mask.reasons.length, context.mask.isMasked channel = true →
    regions[channel]? = some none ∧ all[channel]? = some .absent
  turned : ∀ channel ∈ context.mask.unmasked, Turned bench settings dac pass context after mid
    regions all searches settles channel (finding channel) (fate channel) (settled channel)

section

variable {finding : Nat → Finding R} {fate : Nat → Fate} {settled : Nat → Settled R}

theorem Turns.midEffs (h : Turns bench settings dac pass context after mid regions all searches
    settles finding fate settled) :
    (regions.map fun region ↦ region.map (·.midEff)).filterMap id =
      context.mask.unmasked.filterMap fun channel ↦
        (finding channel).region.toOption.map (·.midEff) := by
  refine ChannelMask.filterMap_eq_unmasked ((List.length_map _).trans h.regionPlaces)
    fun channel hplace ↦ ?_
  rw [List.getElem?_map]
  cases hmasked : context.mask.isMasked channel with
  | true =>
    rw [(h.absent channel hplace hmasked).1]
    rfl
  | false =>
    rw [(h.turned channel (ChannelMask.mem_unmasked_iff.mpr ⟨hplace, hmasked⟩)).found]
    rfl

/-- A count over the settled channels counts channels that were in use. -/
theorem Turns.countP {p : Settled R → Bool} {q : Nat → Bool}
    (h : Turns bench settings dac pass context after mid regions all searches settles finding fate
      settled)
    (habsent : p .absent = false)
    (hpresent : ∀ channel ∈ context.mask.unmasked, p (settled channel) = q channel) :
    all.countP p = context.mask.unmasked.countP q := by
  refine ChannelMask.countP_eq_unmasked h.places fun channel hplace ↦ ?_
  cases hmasked : context.mask.isMasked channel with
  | true => exact ⟨.absent, (h.absent channel hplace hmasked).2, by simp [habsent]⟩
  | false =>
    have hmem := ChannelMask.mem_unmasked_iff.mpr ⟨hplace, hmasked⟩
    exact ⟨settled channel, (h.turned channel hmem).outcome, by simp [hpresent channel hmem]⟩

theorem Turns.mem_bumps_iff {bump : R}
    (h : Turns bench settings dac pass context after mid regions all searches settles finding fate
      settled) (htrims : after.trims = all.map Settled.result) :
    (channel, bump) ∈ (PassOutcome.ofSettled all).bumps ↔
      channel ∈ context.mask.unmasked ∧ fate channel = .trimmed ∧ ∃ result,
        after.trim channel = some result ∧ lt result.eff (ofCount 0) = true ∧
          bump = -result.eff := by
  have htrim : channel ∈ context.mask.unmasked →
      after.trim channel = (settled channel).result := by
    intro hmem
    rw [Context.trim, htrims, List.getElem?_map, (h.turned channel hmem).outcome]
    rfl
  rw [Trim.mem_bumps_iff]
  constructor
  · rintro ⟨found, hfound, hbump⟩
    have hplace : channel < context.mask.reasons.length :=
      h.places ▸ (List.getElem?_eq_some_iff.mp hfound).1
    cases hmasked : context.mask.isMasked channel with
    | true =>
      obtain rfl := Option.some.inj (hfound.symm.trans (h.absent channel hplace hmasked).2)
      cases hbump
    | false =>
      have hmem := ChannelMask.mem_unmasked_iff.mpr ⟨hplace, hmasked⟩
      have hturn := h.turned channel hmem
      obtain rfl := Option.some.inj (hfound.symm.trans hturn.outcome)
      rw [htrim hmem]
      exact ⟨hmem, (hturn.reports.bump bump).mp hbump⟩
  · rintro ⟨hmem, hreport⟩
    have hturn := h.turned channel hmem
    rw [htrim hmem] at hreport
    exact ⟨_, hturn.outcome, (hturn.reports.bump bump).mpr hreport⟩

end

/-- The account of a pass over all the channels it found in use. -/
structure Accounted (bench : Bench σ R) (settings : TrimSettings R) (dac : Nat) (pass : Pass)
    (context after : Context R) (settles : Journal) (finding : Nat → Finding R) (fate : Nat → Fate)
    (outcome : PassOutcome R) (mid : MidTrim R) : Prop where
  earlier : ∀ channel reason, context.mask.reason channel = some reason →
    after.mask.reason channel = some reason ∧ after.trim channel = none
  level : ∀ channel ∈ context.mask.unmasked, ∀ region, (finding channel).region = .ok region →
    region.isUsable = true → LevelIn bench settings dac context mid.deviceEff settles channel region
      (finding channel).level
  ends : ∀ channel ∈ context.mask.unmasked,
    Ends settings pass context after mid channel (finding channel) (fate channel)
  once : ∀ channel ∈ context.mask.unmasked, ∀ other,
    Ends settings pass context after mid channel (finding channel) other → other = fate channel
  recorded : after.mid = some mid
  deviceEff : scalarMedian (context.mask.unmasked.filterMap fun channel ↦
    (finding channel).region.toOption.map (·.midEff)) = some mid.deviceEff
  regions : outcome.regions = context.mask.unmasked.countP (fate · ≠ .regionless)
  unusable : outcome.unusable = context.mask.unmasked.countP (fate · = .leftAtMid)
  bumps : ∀ channel bump, (channel, bump) ∈ outcome.bumps ↔
    channel ∈ context.mask.unmasked ∧ fate channel = .trimmed ∧ ∃ result,
      after.trim channel = some result ∧ lt result.eff (ofCount 0) = true ∧ bump = -result.eff
  ascending : outcome.bumps.Pairwise (·.1 < ·.1)
  within : ∀ bump ∈ outcome.bumps,
    lt (context.spec.flavor.toCounts settings.bumpCutoffMv) bump.2 = false ∧ pass = .first

end Trim

end ThresholdTrim
