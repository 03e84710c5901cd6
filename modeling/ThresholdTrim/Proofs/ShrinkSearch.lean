import ThresholdTrim.Proofs.Binary.Counts
import ThresholdTrim.Proofs.Course
import ThresholdTrim.Proofs.Exact

/-!
# The search for the high point

What a region search asks of a channel, and what it makes of the answers. A level function may
answer as it likes: its answers may depend on what it was asked before, and it may fail at any trim.
So the statements are about the list of trims it was asked for, which `keepingList` writes down
along with the answers.

Low and mid come first. If there is room on both sides of mid, the high points follow from the top
down, two trims apart, up to the first one whose slope agrees. The induction is on the number of
high points that are left (`searchHigh_course`); that all of them lie above mid, and none is reached
by stepping below zero, is a matter of the numbers alone (`highTrim_of_le`).
-/

namespace ThresholdTrim

open Scalar

/-- Scalars in which slopes are compared as numbers are: of two finite ones one is at most the
other, and a zero of either sign is no slope that could be inverted. -/
class SlopeScalar (R : Type) [Scalar R] : Prop where
  le_of_not_lt : ∀ {x y : R}, isFinite x = true → isFinite y = true → lt x y = false →
    le y x = true
  not_le_of_lt : ∀ {x y : R}, lt x y = true → le y x = false
  isFinite_abs : ∀ {x : R}, isFinite x = true → isFinite (abs x) = true
  abs_of_zero : ∀ {x : R}, le x (ofCount 0) = true → le (ofCount 0) x = true →
    abs x = ofCount 0
  zero_le_zero : le (ofCount 0 : R) (ofCount 0) = true
  isFinite_minSlope : isFinite (Trim.minSlope : R) = true
  zero_lt_minSlope : lt (ofCount 0) (Trim.minSlope : R) = true

instance : SlopeScalar ℚ where
  le_of_not_lt _ _ h := le_rat.mpr (lt_eq_false_rat.mp h)
  not_le_of_lt h := decide_eq_false (not_le.mpr (lt_rat.mp h))
  isFinite_abs _ := rfl
  abs_of_zero hle hge := by
    rw [le_antisymm (le_rat.mp hle) (le_rat.mp hge)]
    exact abs_of_nonneg (Nat.cast_nonneg 0)
  zero_le_zero := by decide
  isFinite_minSlope := rfl
  zero_lt_minSlope := by decide +kernel

instance : SlopeScalar Float where
  le_of_not_lt := Binary.le_of_not_lt
  not_le_of_lt := Binary.not_le_of_lt
  isFinite_abs := Binary.isFinite_abs
  abs_of_zero := Binary.abs_of_zero
  zero_le_zero := by decide
  isFinite_minSlope := by decide
  zero_lt_minSlope := by decide

namespace Trim

/-! ## Level functions -/

section

variable {ε τ R : Type}

/-- Effective thresholds by trim. An answer may depend on what was asked before, or be a failure. -/
abbrev LevelFunction (ε τ R : Type) := Nat → ExceptT ε (StateM τ) R

/-- The trims that were asked for, in order, each with its answer. -/
abbrev Asked (ε R : Type) := List (Nat × Except ε R)

/-- The same answers, with a list kept of what was asked. -/
def keepingList (level : LevelFunction ε τ R) : LevelFunction ε (τ × Asked ε R) R :=
  fun trim ↦ ExceptT.mk fun (state, asked) ↦
    let (answer, next) := (level trim).run state
    (answer, (next, asked ++ [(trim, answer)]))

/-- The answers a level function gives when it is asked for trims one after the other, and the state
it is left in. -/
inductive Answers (level : LevelFunction ε τ R) : τ → Asked ε R → τ → Prop
  | nil {state : τ} : Answers level state [] state
  | cons {state next after : τ} {trim : Nat} {answer : Except ε R} {later : Asked ε R}
    (hanswer : (level trim).run state = (answer, next)) (rest : Answers level next later after) :
    Answers level state ((trim, answer) :: later) after

variable {α : Type}

/-- The result is the first failure, and a failure is the last thing that was asked for. -/
inductive Halts : Asked ε R → Except ε α → Prop
  | done (a : α) : Halts [] (.ok a)
  | failed (trim : Nat) (cause : ε) : Halts [(trim, .error cause)] (.error cause)
  | answered (trim : Nat) (eff : R) {asked : Asked ε R} {result : Except ε α}
    (rest : Halts asked result) : Halts ((trim, .ok eff) :: asked) result

variable {level : LevelFunction ε τ R} {start next after : τ} {trim : Nat} {cause : ε}
  {eff : R} {answer : Except ε R} {asked : Asked ε R} {result : Except ε α}

/-- A computation asks for these trims, gets these answers and comes to this result. With a list
kept it does the same, and adds to the list what it asked for. -/
structure Asks (level : LevelFunction ε τ R) (plain : ExceptT ε (StateM τ) α)
    (listing : ExceptT ε (StateM (τ × Asked ε R)) α) (start : τ) (asked : Asked ε R)
    (result : Except ε α) (after : τ) : Prop where
  answers : Answers level start asked after
  halts : Halts asked result
  plain : plain.run start = (result, after)
  listing : ∀ before, listing.run (start, before) = (result, (after, before ++ asked))

theorem asks_pure (level : LevelFunction ε τ R) (a : α) (start : τ) :
    Asks level (pure a) (pure a) start [] (.ok a) start where
  answers := .nil
  halts := .done a
  plain := rfl
  listing before := by
    rw [List.append_nil]
    rfl

variable {f : R → ExceptT ε (StateM τ) α} {g : R → ExceptT ε (StateM (τ × Asked ε R)) α}

theorem keepingList_run (before : Asked ε R) (h : (level trim).run start = (answer, next)) :
    (keepingList level trim).run (start, before) =
      (answer, (next, before ++ [(trim, answer)])) := by
  change (((level trim).run start).1, (((level trim).run start).2,
    before ++ [(trim, ((level trim).run start).1)])) = _
  rw [h]

theorem asks_failed (h : (level trim).run start = (.error cause, after)) :
    Asks level (level trim >>= f) (keepingList level trim >>= g) start [(trim, .error cause)]
      (.error cause) after where
  answers := .cons h .nil
  halts := .failed trim cause
  plain := by rw [run_bind, h]
  listing before := by rw [run_bind, keepingList_run before h]

theorem asks_answered (h : (level trim).run start = (.ok eff, next))
    (hrest : Asks level (f eff) (g eff) next asked result after) :
    Asks level (level trim >>= f) (keepingList level trim >>= g) start
      ((trim, .ok eff) :: asked) result after where
  answers := .cons h hrest.answers
  halts := .answered trim eff hrest.halts
  plain := by
    rw [run_bind, h]
    exact hrest.plain
  listing before := by
    rw [run_bind, keepingList_run before h]
    dsimp only
    rw [hrest.listing, List.append_assoc, List.singleton_append]

end

/-! ## The points of a search -/

section

variable {ε R : Type}

/-- After a high point above mid comes the one two below it. -/
theorem highPoints_eq_cons {mid high : Nat} (h : mid < high) :
    highPoints mid high = high :: highPoints mid (high - 2) := by
  have hcount : (high - mid + 1) / 2 = (high - 2 - mid + 1) / 2 + 1 := by omega
  have hnext : ∀ k, high - 2 * (k + 1) = high - 2 - 2 * k := by omega
  rw [highPoints, highPoints, hcount, List.range_succ_eq_map, List.map_cons, List.map_map]
  exact congrArg (high :: ·) (List.map_congr_left fun k _ ↦ hnext k)

/-- At mid the high points end. -/
theorem highPoints_of_le {mid high : Nat} (h : high ≤ mid) : highPoints mid high = [] := by
  have hcount : (high - mid + 1) / 2 = 0 := by omega
  rw [highPoints, hcount]
  rfl

/-- The high point a search starts from. -/
def topTrim (settings : TrimSettings R) : Nat := min settings.high settings.trimMax

/-- There is no room below mid, or none above it. -/
def IsNarrow (settings : TrimSettings R) : Prop :=
  settings.mid ≤ settings.low ∨ topTrim settings ≤ settings.mid

instance (settings : TrimSettings R) : Decidable (IsNarrow settings) :=
  inferInstanceAs (Decidable (_ ∨ _))

/-- How often the high point can be pulled down and still lie above mid. -/
def maxDepth (settings : TrimSettings R) : Nat := (topTrim settings - settings.mid - 1) / 2

/-- The high point, pulled down so many times. -/
def highTrim (settings : TrimSettings R) (depth : Nat) : Nat := topTrim settings - 2 * depth

/-- High points from the top down, with the thresholds that were read. -/
def readHighs (settings : TrimSettings R) (effs : List R) : Asked ε R :=
  effs.mapIdx fun depth eff ↦ (highTrim settings depth, .ok eff)

variable {settings : TrimSettings R} {depth : Nat}

/-- Above mid by `maxDepth` steps of two and one more at most. -/
theorem highTrim_of_le (hroom : ¬IsNarrow settings) (hdepth : depth ≤ maxDepth settings) :
    highTrim settings depth + 2 * depth = topTrim settings ∧
      settings.mid < highTrim settings depth ∧ 2 ≤ highTrim settings depth := by
  rw [IsNarrow] at hroom
  rw [maxDepth] at hdepth
  rw [highTrim]
  omega

theorem highTrim_succ (settings : TrimSettings R) (depth : Nat) :
    highTrim settings (depth + 1) = highTrim settings depth - 2 := by
  rw [highTrim, highTrim]
  omega

theorem highTrim_succ_maxDepth_le (settings : TrimSettings R) :
    highTrim settings (maxDepth settings + 1) ≤ settings.mid := by
  rw [highTrim, maxDepth]
  omega

/-- What a search may ask for, in order. -/
def searchTrims (settings : TrimSettings R) : List Nat :=
  settings.low :: settings.mid ::
    if IsNarrow settings then []
    else (List.range (maxDepth settings + 1)).map (highTrim settings)

theorem readHighs_concat (settings : TrimSettings R) (effs : List R) (eff : R) :
    (readHighs settings (effs ++ [eff]) : Asked ε R) =
      readHighs settings effs ++ [(highTrim settings effs.length, .ok eff)] :=
  List.mapIdx_concat

theorem readHighs_trims (settings : TrimSettings R) (effs : List R) :
    (readHighs settings effs : Asked ε R).map Prod.fst =
      (List.range effs.length).map (highTrim settings) := by
  refine List.ext_getElem ?_ fun _ _ _ ↦ ?_
  · rw [List.length_map, readHighs, List.length_mapIdx, List.length_map, List.length_range]
  · simp only [readHighs, List.getElem_map, List.getElem_mapIdx, List.getElem_range]

theorem readHighs_concat_trims (settings : TrimSettings R) (effs : List R) (answer : Except ε R) :
    (readHighs settings effs ++ [(highTrim settings effs.length, answer)]).map Prod.fst =
      (List.range (effs.length + 1)).map (highTrim settings) := by
  rw [List.map_append, readHighs_trims, List.range_succ, List.map_append]
  rfl

end

/-! ## The course of a search -/

section

variable {ε τ R : Type} [Scalar R]

/-- Slope between two trims. -/
def slopeBetween (low high : Nat) (lowEff highEff : R) : R :=
  (highEff - lowEff) / ofCount (high - low)

/-- Whether the slope from mid to the high point agrees with the slope below mid. -/
def agreesAt (settings : TrimSettings R) (slopeBelow midEff : R) (depth : Nat) (eff : R) : Bool :=
  slopesAgree slopeBelow (slopeBetween settings.mid (highTrim settings depth) midEff eff)
    settings.slopeTolerance

/-- Region up to the point where the slopes agree: it has their mean for a slope, if that can be
inverted. -/
def agreedRegion (settings : TrimSettings R) (slopeBelow midEff : R) (depth : Nat) (eff : R) :
    Region R :=
  let slopeAbove := slopeBetween settings.mid (highTrim settings depth) midEff eff
  let slope := (slopeBelow + slopeAbove) / ofCount 2
  if isFinite slope && le minSlope (Scalar.abs slope) then
    ⟨slope, highTrim settings depth, midEff, depth⟩
  else .unusable midEff depth

/-- At none of these high points the slopes agree. -/
def Disagrees (settings : TrimSettings R) (slopeBelow midEff : R) (effs : List R) : Prop :=
  ∀ depth eff, effs[depth]? = some eff → agreesAt settings slopeBelow midEff depth eff = false

/-- What is asked for above mid, and what comes of it. -/
inductive HighCourse (settings : TrimSettings R) (slopeBelow midEff : R) :
    Asked ε R → Except ε (Region R) → Prop
  | failed {effs : List R} (cause : ε) (hdepth : effs.length ≤ maxDepth settings)
    (hdisagrees : Disagrees settings slopeBelow midEff effs) :
    HighCourse settings slopeBelow midEff
      (readHighs settings effs ++ [(highTrim settings effs.length, .error cause)]) (.error cause)
  | agreed {effs : List R} {eff : R} (hdepth : effs.length ≤ maxDepth settings)
    (hdisagrees : Disagrees settings slopeBelow midEff effs)
    (hagrees : agreesAt settings slopeBelow midEff effs.length eff = true) :
    HighCourse settings slopeBelow midEff
      (readHighs settings effs ++ [(highTrim settings effs.length, .ok eff)])
      (.ok (agreedRegion settings slopeBelow midEff effs.length eff))
  | exhausted {effs : List R} (hlength : effs.length = maxDepth settings + 1)
    (hdisagrees : Disagrees settings slopeBelow midEff effs) :
    HighCourse settings slopeBelow midEff (readHighs settings effs)
      (.ok (.unusable midEff (maxDepth settings)))

/-- What a search asks for, and what comes of it. -/
inductive Course (settings : TrimSettings R) : Asked ε R → Except ε (Region R) → Prop
  | lowFailed (cause : ε) : Course settings [(settings.low, .error cause)] (.error cause)
  | midFailed (lowEff : R) (cause : ε) :
    Course settings [(settings.low, .ok lowEff), (settings.mid, .error cause)] (.error cause)
  | narrow (lowEff midEff : R) (hnarrow : IsNarrow settings) :
    Course settings [(settings.low, .ok lowEff), (settings.mid, .ok midEff)]
      (.ok (.unusable midEff 0))
  | searched {lowEff midEff : R} {asked : Asked ε R} {result : Except ε (Region R)}
    (hroom : ¬IsNarrow settings)
    (highs : HighCourse settings (slopeBetween settings.low settings.mid lowEff midEff) midEff asked
      result) :
    Course settings ((settings.low, .ok lowEff) :: (settings.mid, .ok midEff) :: asked) result

/-! ## Above mid -/

section

variable {settings : TrimSettings R} {slopeBelow midEff eff : R} {effs : List R}

/-- One more high point at which the slopes do not agree. -/
theorem Disagrees.concat (h : Disagrees settings slopeBelow midEff effs)
    (heff : agreesAt settings slopeBelow midEff effs.length eff = false) :
    Disagrees settings slopeBelow midEff (effs ++ [eff]) := by
  intro depth other hother
  rcases lt_trichotomy depth effs.length with hlt | rfl | hgt
  · rw [List.getElem?_append_left hlt] at hother
    exact h depth other hother
  · rw [List.getElem?_concat_length, Option.some_inj] at hother
    exact hother ▸ heff
  · rw [List.getElem?_eq_none (by simpa using hgt)] at hother
    exact nomatch hother

theorem agreedRegion_eq_upTo [SlopeScalar R] (settings : TrimSettings R) (slopeBelow midEff : R)
    (depth : Nat) (eff : R) : agreedRegion settings slopeBelow midEff depth eff =
      .upTo (highTrim settings depth)
        ((slopeBelow + slopeBetween settings.mid (highTrim settings depth) midEff eff) / ofCount 2)
        midEff depth := by
  rw [agreedRegion, Region.upTo]
  generalize (slopeBelow + slopeBetween settings.mid (highTrim settings depth) midEff eff) /
    ofCount 2 = slope
  cases hfinite : isFinite slope with
  | false => rfl
  | true =>
    cases hsmall : lt (Scalar.abs slope) minSlope with
    | true =>
      rw [SlopeScalar.not_le_of_lt hsmall]
      rfl
    | false =>
      rw [SlopeScalar.le_of_not_lt (SlopeScalar.isFinite_abs hfinite) SlopeScalar.isFinite_minSlope
        hsmall]
      rfl

/-- From any depth on, the points down to mid are asked for in order, up to the first failure or the
first slope that agrees. -/
theorem searchHigh_course [SlopeScalar R] (level : LevelFunction ε τ R)
    (hroom : ¬IsNarrow settings) (slopeBelow midEff : R) (left : Nat) (effs : List R)
    (hleft : effs.length + left = maxDepth settings + 1)
    (hdisagrees : Disagrees settings slopeBelow midEff effs) (start : τ) :
    ∃ asked result after,
      Asks level
        (searchHigh level settings.slopeTolerance settings.mid midEff slopeBelow
          (highPoints settings.mid (highTrim settings effs.length)) effs.length)
        (searchHigh (keepingList level) settings.slopeTolerance settings.mid midEff slopeBelow
          (highPoints settings.mid (highTrim settings effs.length)) effs.length)
        start asked result after ∧
      HighCourse settings slopeBelow midEff (readHighs settings effs ++ asked) result := by
  induction left generalizing effs start with
  | zero =>
    rw [Nat.add_zero] at hleft
    rw [hleft, highPoints_of_le (highTrim_succ_maxDepth_le settings)]
    refine ⟨[], _, start, asks_pure level _ start, ?_⟩
    rw [List.append_nil]
    exact .exhausted hleft hdisagrees
  | succ left ih =>
    have hdepth : effs.length ≤ maxDepth settings := by omega
    rw [highPoints_eq_cons (highTrim_of_le hroom hdepth).2.1, ← highTrim_succ]
    rcases hanswer : (level (highTrim settings effs.length)).run start with ⟨cause | eff, next⟩
    · exact ⟨_, _, next, asks_failed hanswer, .failed cause hdepth hdisagrees⟩
    cases hagrees : agreesAt settings slopeBelow midEff effs.length eff with
    | true =>
      have hslopes : slopesAgree slopeBelow _ settings.slopeTolerance = true := hagrees
      refine ⟨_, _, next, asks_answered hanswer ?_, .agreed hdepth hdisagrees hagrees⟩
      rw [agreedRegion_eq_upTo]
      dsimp only
      rw [← slopeBetween, if_pos hslopes, if_pos hslopes]
      exact asks_pure level _ next
    | false =>
      have hslopes : ¬slopesAgree slopeBelow _ settings.slopeTolerance = true :=
        Bool.eq_false_iff.mp hagrees
      have hlength : (effs ++ [eff]).length = effs.length + 1 := List.length_append
      obtain ⟨asked, result, after, hasks, hcourse⟩ :=
        ih (effs ++ [eff]) (by omega) (hdisagrees.concat hagrees) next
      rw [readHighs_concat, List.append_assoc, List.singleton_append] at hcourse
      refine ⟨_, result, after, asks_answered hanswer ?_, hcourse⟩
      dsimp only
      rw [← slopeBetween, if_neg hslopes, if_neg hslopes, ← hlength]
      exact hasks

end

/-! ## Regions -/

/-- A zero of either sign. -/
def IsZero (x : R) : Prop := le x (ofCount 0) = true ∧ le (ofCount 0) x = true

/-- A region to be found with these settings. It can be trimmed by if it has a high point, and it
has one if it has a slope. -/
structure Region.Fits (settings : TrimSettings R) (region : Region R) : Prop where
  depth_le : region.depth ≤ maxDepth settings
  isUsable_iff : region.isUsable = true ↔ 0 < region.trimMax
  trimMax_pos_iff : 0 < region.trimMax ↔ ¬IsZero region.slope
  trimMax_of_pos : 0 < region.trimMax →
    settings.mid < region.trimMax ∧ region.trimMax + 2 * region.depth = topTrim settings

section

theorem agreedRegion_depth (settings : TrimSettings R) (slopeBelow midEff : R) (depth : Nat)
    (eff : R) : (agreedRegion settings slopeBelow midEff depth eff).depth = depth := by
  rw [agreedRegion]
  split <;> rfl

variable [SlopeScalar R] {settings : TrimSettings R} {slopeBelow midEff eff : R} {depth : Nat}

theorem fits_unusable (midEff : R) (hdepth : depth ≤ maxDepth settings) :
    (Region.unusable midEff depth).Fits settings where
  depth_le := hdepth
  isUsable_iff := iff_of_false Bool.false_ne_true (Nat.lt_irrefl 0)
  trimMax_pos_iff := iff_of_false (Nat.lt_irrefl 0)
    (not_not_intro ⟨SlopeScalar.zero_le_zero, SlopeScalar.zero_le_zero⟩)
  trimMax_of_pos h := absurd h (Nat.lt_irrefl 0)

theorem not_isZero_of_minSlope_le {slope : R} (h : le minSlope (Scalar.abs slope) = true) :
    ¬IsZero slope := by
  rintro ⟨hle, hge⟩
  rw [SlopeScalar.abs_of_zero hle hge, SlopeScalar.not_le_of_lt SlopeScalar.zero_lt_minSlope] at h
  exact nomatch h

theorem fits_agreedRegion (hroom : ¬IsNarrow settings) (hdepth : depth ≤ maxDepth settings) :
    (agreedRegion settings slopeBelow midEff depth eff).Fits settings := by
  rw [agreedRegion]
  split
  · rename_i hslope
    rw [Bool.and_eq_true] at hslope
    obtain ⟨htop, hmid, hpos⟩ := highTrim_of_le hroom hdepth
    have hpos : 0 < highTrim settings depth := Nat.lt_of_lt_of_le Nat.two_pos hpos
    refine ⟨hdepth, ⟨fun _ ↦ hpos, fun _ ↦ ?_⟩,
      iff_of_true hpos (not_isZero_of_minSlope_le hslope.2), fun _ ↦ ⟨hmid, htop⟩⟩
    rw [Region.isUsable, decide_eq_true hpos, Bool.true_and]
    exact hslope.2
  · exact fits_unusable midEff hdepth

end

/-! ## Whole searches -/

section

variable {settings : TrimSettings R} {slopeBelow midEff : R} {asked : Asked ε R}
  {result : Except ε (Region R)} {region : Region R}

/-- Above mid the points are asked for in order. -/
theorem HighCourse.trims (h : HighCourse settings slopeBelow midEff asked result) :
    ∃ n ≤ maxDepth settings + 1, asked.map Prod.fst = (List.range n).map (highTrim settings) := by
  cases h with
  | @failed effs cause hdepth _ =>
    exact ⟨effs.length + 1, Nat.succ_le_succ hdepth, readHighs_concat_trims settings effs _⟩
  | @agreed effs eff hdepth _ _ =>
    exact ⟨effs.length + 1, Nat.succ_le_succ hdepth, readHighs_concat_trims settings effs _⟩
  | @exhausted effs hlength _ => exact ⟨effs.length, hlength.le, readHighs_trims settings effs⟩

theorem Course.trims_prefix (h : Course settings asked result) :
    asked.map Prod.fst <+: searchTrims settings := by
  cases h with
  | lowFailed | midFailed | narrow => exact ⟨_, rfl⟩
  | searched hroom highs =>
    obtain ⟨n, hn, htrims⟩ := highs.trims
    rw [searchTrims, if_neg hroom, List.map_cons, List.map_cons, htrims, ← Nat.min_eq_left hn,
      ← List.take_range, List.map_take]
    exact (List.prefix_cons_inj _).mpr ((List.prefix_cons_inj _).mpr (List.take_prefix ..))

/-- A search that found a region has asked for all points down to it. -/
structure Found (settings : TrimSettings R) (asked : Asked ε R) (region : Region R) : Prop where
  trims : asked.map Prod.fst = settings.low :: settings.mid ::
    if IsNarrow settings then []
    else (List.range (region.depth + 1)).map (highTrim settings)
  fits : region.Fits settings

theorem Course.found [SlopeScalar R] (h : Course settings asked (.ok region)) :
    Found settings asked region := by
  cases h with
  | narrow lowEff midEff hnarrow =>
    refine ⟨?_, fits_unusable midEff (Nat.zero_le _)⟩
    rw [if_pos hnarrow]
    rfl
  | searched hroom highs =>
    cases highs with
    | @agreed effs eff hdepth hdisagrees hagrees =>
      refine ⟨?_, fits_agreedRegion hroom hdepth⟩
      rw [if_neg hroom, agreedRegion_depth, List.map_cons, List.map_cons, readHighs_concat_trims]
    | @exhausted effs hlength hdisagrees =>
      refine ⟨?_, fits_unusable _ le_rfl⟩
      rw [if_neg hroom, List.map_cons, List.map_cons, readHighs_trims, hlength]
      rfl

end

theorem findRegion_course [SlopeScalar R] (level : LevelFunction ε τ R) (settings : TrimSettings R)
    (start : τ) :
    ∃ asked result after,
      Asks level (findRegion level settings) (findRegion (keepingList level) settings) start asked
        result after ∧
      Course settings asked result := by
  rcases hlow : (level settings.low).run start with ⟨cause | lowEff, next⟩
  · exact ⟨_, _, next, asks_failed hlow, .lowFailed cause⟩
  rcases hmid : (level settings.mid).run next with ⟨cause | midEff, last⟩
  · exact ⟨_, _, last, asks_answered hlow (asks_failed hmid), .midFailed lowEff cause⟩
  by_cases hnarrow : IsNarrow settings
  · refine ⟨_, _, last, asks_answered hlow (asks_answered hmid ?_), .narrow lowEff midEff hnarrow⟩
    rw [IsNarrow, topTrim] at hnarrow
    dsimp only
    rw [if_pos hnarrow, if_pos hnarrow]
    exact asks_pure level _ last
  · obtain ⟨asked, result, after, hasks, hcourse⟩ :=
      searchHigh_course level hnarrow (slopeBetween settings.low settings.mid lowEff midEff) midEff
        (maxDepth settings + 1) [] (Nat.zero_add _) nofun last
    refine ⟨_, result, after, asks_answered hlow (asks_answered hmid ?_),
      .searched hnarrow hcourse⟩
    rw [IsNarrow, topTrim] at hnarrow
    dsimp only
    rw [if_neg hnarrow, if_neg hnarrow]
    exact hasks

/-- Whatever a level function answers, it is asked for low, for mid, and if there is room around mid
for the high points from the top down, two apart, until it fails or a slope agrees. -/
theorem search_asks_down_to_agreement [SlopeScalar R] (level : LevelFunction ε τ R)
    (settings : TrimSettings R) (start : τ) :
    ∃ asked result after,
      Asks level (findRegion level settings) (findRegion (keepingList level) settings) start asked
        result after ∧
      Course settings asked result ∧
      asked.map Prod.fst <+: searchTrims settings ∧
      (¬IsNarrow settings → ∀ depth ≤ maxDepth settings,
        highTrim settings depth + 2 * depth = topTrim settings ∧
          settings.mid < highTrim settings depth ∧ 2 ≤ highTrim settings depth) ∧
      ∀ region, result = .ok region → Found settings asked region := by
  obtain ⟨asked, result, after, hasks, hcourse⟩ := findRegion_course level settings start
  refine ⟨asked, result, after, hasks, hcourse, hcourse.trims_prefix,
    fun hroom depth ↦ highTrim_of_le hroom, ?_⟩
  rintro region rfl
  exact hcourse.found

end

/-- Four counts a step up to trim 22, and flat above. The state counts what was asked. -/
def ceilingLevel : LevelFunction String Nat Float :=
  fun trim ↦ ExceptT.mk fun count ↦ (.ok (ofCount (40 + 4 * min trim 22)), count + 1)

/-- In binary floating point, the high point of the default settings is pulled down three times for
a response that is flat from 22 on. -/
theorem search_asks_down_to_agreement_ceiling :
    ∃ asked region,
      Asks ceilingLevel (findRegion ceilingLevel Settings.defaultTrim)
        (findRegion (keepingList ceilingLevel) Settings.defaultTrim) 0 asked (.ok region) 6 ∧
      asked.map Prod.fst = [0, 14, 31, 29, 27, 25] ∧ region.trimMax = 25 := by
  let run := (findRegion (keepingList ceilingLevel) Settings.defaultTrim).run (0, [])
  have hafter : run.2.1 = 6 := by decide +kernel
  have htrims : run.2.2.map Prod.fst = [0, 14, 31, 29, 27, 25] := by decide +kernel
  have htop : run.1.toOption.map (·.trimMax) = some 25 := by decide +kernel
  obtain ⟨asked, result, after, hasks, _⟩ :=
    search_asks_down_to_agreement ceilingLevel Settings.defaultTrim 0
  have hrun : run = (result, (after, asked)) := hasks.listing []
  rw [hrun] at hafter htrims htop
  obtain rfl : after = 6 := hafter
  cases result with
  | error => exact nomatch htop
  | ok region => exact ⟨asked, region, hasks, htrims, Option.some.inj htop⟩

end Trim

end ThresholdTrim
