import ThresholdTrim.Threshold

/-!
# Trims

A channel responds to its trim along a line up to a ceiling of its own. The ceiling is found by
comparing the slope below mid trim with the slope above it, and pulling the high point down by two
until they agree.

A pass finds the linear region of every channel in use, takes the device threshold as the median
over them, and trims each channel onto it. Each channel that got a region is settled in exactly one
of four ways; what a pass has to report is counted from these.

Channels that end below their baseline after the first pass may ask for a higher threshold. If at
least one of them can be helped, the register is raised once, by enough for the largest request,
and the pass is run again.
-/

namespace ThresholdTrim.Trim

open Scalar Statistics

variable {σ R : Type} [Scalar R]

/-! ## Linear regions of the response -/

/-- Linear part of one channel's trim response. -/
structure Region (R : Type) where
  /-- Mean of the two slopes, counts per step; 0 when the response is not usable. Negative when
  raising the trim lowers the threshold. -/
  slope : R
  /-- Final high point; 0 when the response is not usable. -/
  trimMax : Nat
  /-- Effective threshold at mid trim. -/
  midEff : R
  /-- Number of times the high point was pulled down. -/
  depth : Nat

/-- Slopes smaller than this, in counts per step, cannot be inverted. -/
def minSlope : R := fraction 1 1000000

namespace Region

def isUsable (region : Region R) : Bool :=
  decide (0 < region.trimMax) && le minSlope (abs region.slope)

/-- A response with nothing to trim by. -/
def unusable (midEff : R) (depth : Nat) : Region R := ⟨ofCount 0, 0, midEff, depth⟩

/-- The region up to `high`, unusable when its slope cannot be inverted. -/
def upTo (high : Nat) (slope midEff : R) (depth : Nat) : Region R :=
  if !isFinite slope || lt (abs slope) minSlope then unusable midEff depth
  else ⟨slope, high, midEff, depth⟩

end Region

/-- Whether two slopes differ by no more than the tolerance. -/
def slopesAgree (m₁ m₂ tolerance : R) : Bool := le (abs (m₁ - m₂)) tolerance

/-- High points in the order they are tried: from `high` down in steps of two, above `mid`. -/
def highPoints (mid high : Nat) : List Nat :=
  (List.range ((high - mid + 1) / 2)).map fun k ↦ high - 2 * k

section

variable {m : Type → Type} [Monad m]

/-- Reads the high points in order, `depth` of them read already, up to the first one whose slope
above mid agrees with the slope below. -/
def searchHigh (level : Nat → m R) (tolerance : R) (mid : Nat) (midEff slopeBelow : R) :
    List Nat → Nat → m (Region R)
  | [], depth => return .unusable midEff (depth - 1)
  | high :: rest, depth => do
    let highEff ← level high
    let slopeAbove := (highEff - midEff) / ofCount (high - mid)
    if slopesAgree slopeBelow slopeAbove tolerance then
      return .upTo high ((slopeBelow + slopeAbove) / ofCount 2) midEff depth
    else
      searchHigh level tolerance mid midEff slopeBelow rest (depth + 1)

/-- Linear region of the response `level`, which reads the effective threshold at a trim. Low and
mid are read first, whatever the settings. -/
def findRegion (level : Nat → m R) (settings : TrimSettings R) : m (Region R) := do
  let high := min settings.high settings.trimMax
  let lowEff ← level settings.low
  let midEff ← level settings.mid
  if settings.mid ≤ settings.low ∨ high ≤ settings.mid then
    return .unusable midEff 0
  else
    let slopeBelow := (midEff - lowEff) / ofCount (settings.mid - settings.low)
    searchHigh level settings.slopeTolerance settings.mid midEff slopeBelow
      (highPoints settings.mid high) 0

end

/-- Trim that moves a channel's effective threshold onto the device's. -/
def chooseTrim (channelEff deviceEff slope : R) (mid trimMax : Nat) : Nat :=
  let shift := round ((channelEff - deviceEff) / slope)
  let trim := ofCount mid - shift
  if !isFinite trim then min mid trimMax else toNat (clampTo trimMax trim)

/-! ## Passes -/

/-- Which pass is running. The second one never asks for another. -/
inductive Pass
  | first
  | second
  deriving DecidableEq

/-- How a channel comes out of a pass. -/
inductive Settled (R : Type)
  /-- Out of use, or taken out of use for want of a region. -/
  | absent
  /-- Left at mid trim, its response being not linear. -/
  | leftAtMid (result : TrimResult R)
  /-- Taken out of use: it could not be read at its trim, or lies below its baseline there. -/
  | dropped
  /-- Trimmed; with a bump when it lies that many counts below its baseline. -/
  | trimmed (result : TrimResult R) (bump : Option R)

namespace Settled

def result : Settled R → Option (TrimResult R)
  | .leftAtMid result | .trimmed result _ => some result
  | .absent | .dropped => none

def bump : Settled R → Option R
  | .trimmed _ bump => bump
  | _ => none

def hasRegion : Settled R → Bool
  | .absent => false
  | _ => true

def isLeftAtMid : Settled R → Bool
  | .leftAtMid _ => true
  | _ => false

end Settled

/-- What a pass reports. -/
structure PassOutcome (R : Type) where
  /-- Channels in use below their baseline, each with the counts it is short of. -/
  bumps : List (Nat × R)
  /-- Channels left at mid trim. -/
  unusable : Nat
  /-- Channels that got a region. -/
  regions : Nat

def PassOutcome.ofSettled (settled : List (Settled R)) : PassOutcome R where
  bumps := settled.zipIdx.filterMap fun (s, channel) ↦ s.bump.map (channel, ·)
  unusable := settled.countP Settled.isLeftAtMid
  regions := settled.countP Settled.hasRegion

/-- Whether the share of channels left at mid trim calls for a warning. -/
def tooManyUnusable (unusable regions : Nat) (settings : TrimSettings R) : Bool :=
  decide (0 < regions) && lt settings.unusableWarnRatio (ofCount unusable / ofCount regions : R)

/-! ### Regions -/

/-- Region of one channel at `dac`, none for a channel out of use. A channel whose response cannot
be read is masked. -/
def channelRegion (bench : Bench σ R) (settings : TrimSettings R) (dac channel : Nat) :
    Stage σ R (Option (Region R)) := do
  let context ← Stage.context
  if context.mask.isMasked channel then return none
  let baseline := (context.baseline channel).median
  let level := fun trim ↦ do
    let level ← Stage.sample (Sampler.medianLevel bench (context.channelKey channel)
      (.threshold dac trim))
    return level - baseline
  match ← Stage.attempt (findRegion level settings) with
  | .ok region => return some region
  | .error _ => do
    Stage.note .regionSearchFailed
    Stage.mask channel .noData
    return none

/-! ### Trims -/

/-- Reads a channel at its trim. Below its baseline it is masked when it is too far below, or when
no further pass will help it. -/
def settleAt (bench : Bench σ R) (settings : TrimSettings R) (dac : Nat) (pass : Pass)
    (region : Region R) (channel trim : Nat) : Stage σ R (Settled R) := do
  let context ← Stage.context
  let level := Sampler.medianLevel bench (context.channelKey channel) (.threshold dac trim)
  match ← Stage.attempt (.sample level) with
  | .error _ => do
    Stage.note .noThresholdAtTrim
    Stage.mask channel .noData
    return .dropped
  | .ok realized =>
    let eff := realized - (context.baseline channel).median
    let result := ⟨region.slope, region.trimMax, trim, eff, realized⟩
    if lt eff (ofCount 0) then
      let cutoff := context.spec.flavor.toCounts settings.bumpCutoffMv
      if lt cutoff (-eff) || pass == .second then
        Stage.note .belowBaseline
        Stage.mask channel .belowBaseline
        return .dropped
      else return .trimmed result (some (-eff))
    else return .trimmed result none

/-- Settles one channel that may have a region. -/
def settle (bench : Bench σ R) (settings : TrimSettings R) (dac : Nat) (pass : Pass)
    (deviceEff : R) (found : Option (Region R) × Nat) : Stage σ R (Settled R) :=
  match found with
  | (none, _) => return .absent
  | (some region, channel) => do
    if region.isUsable then
      settleAt bench settings dac pass region channel
        (chooseTrim region.midEff deviceEff region.slope settings.mid region.trimMax)
    else
      let baseline := ((← Stage.context).baseline channel).median
      return .leftAtMid
        ⟨ofCount 0, 0, settings.mid, region.midEff, region.midEff + baseline⟩

/-- Finds the regions of all channels in use at `dac` and trims them. Fails when no channel has a
region. -/
def runPass (bench : Bench σ R) (settings : TrimSettings R) (dac : Nat) (pass : Pass) :
    Stage σ R (PassOutcome R) := do
  let channels := (← Stage.context).spec.channels
  Stage.update fun context ↦ { context with trims := List.replicate channels none }
  let regions ← (List.range channels).mapM (channelRegion bench settings dac)
  let channelEff := regions.map fun region ↦ region.map (·.midEff)
  let deviceEff ← Stage.need (scalarMedian (channelEff.filterMap id))
  Stage.update fun context ↦ { context with mid := some ⟨channelEff, deviceEff⟩ }
  let settled ← regions.zipIdx.mapM (settle bench settings dac pass deviceEff)
  Stage.update fun context ↦ { context with trims := settled.map Settled.result }
  return .ofSettled settled

/-! ## Whole devices -/

/-- Whether a request lies within half the trim range of its channel. -/
def isFixable (trims : List (Option (TrimResult R))) (request : Nat × R) : Bool :=
  match trims[request.1]?.join with
  | some trim => le request.2 (abs trim.slope * ofCount trim.trimMax / ofCount 2)
  | none => false

/-- Register value that covers the largest request, within the register. -/
def raisedForBumps (constants : ThresholdConstants R) (bumps : List (Nat × R))
    (thdacMax : Nat) : Nat :=
  let largest := (bumps.map (·.2)).foldl larger (ofCount 0)
  let raised := ofCount constants.dac + ceil (largest / constants.slope) + ofCount 1
  toNat (smaller raised (ofCount thdacMax))

/-- Trims the device, with at most one re-entry at a raised register. -/
def optimize (bench : Bench σ R) (settings : TrimSettings R) : Stage σ R Unit := do
  let constants ← Stage.need (← Stage.context).threshold
  let outcome ← runPass bench settings constants.dac .first
  let context ← Stage.context
  if outcome.bumps.any (isFixable context.trims) then
    let dac := raisedForBumps constants outcome.bumps context.thdacMax
    let realized ← Threshold.measureRealized bench dac
    Stage.update fun context ↦
      { context with
        threshold := some { constants with dac, realized }
        secondPass := true }
    let _ ← runPass bench settings dac .second
  else if tooManyUnusable outcome.unusable outcome.regions settings then
    Stage.note .manyUnusable

end ThresholdTrim.Trim
