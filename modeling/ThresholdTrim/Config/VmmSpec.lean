import ThresholdTrim.Text
import ThresholdTrim.Text.Quoted

/-!
# Lists of device indices

The devices of a board are listed as a range `0-7` or one by one, `0;2;5`. A text with a dash is a
range, whatever else it holds; white space around numbers and blank pieces of a list do not matter.
-/

namespace ThresholdTrim

/-- Why a text is not an index of one byte. -/
inductive NumberFault
  | empty
  | invalidDigit
  | tooLarge
  deriving DecidableEq

def NumberFault.message : NumberFault → String
  | .empty => "cannot parse integer from empty string"
  | .invalidDigit => "invalid digit found in string"
  | .tooLarge => "number too large to fit in target type"

namespace ByteText

/-- Value of a digit up to a base of sixteen. -/
def digit? (base : Nat) (c : Char) : Option Nat :=
  let value :=
    if c.isDigit then some (c.toNat - '0'.toNat)
    else if 'a' ≤ c ∧ c ≤ 'f' then some (c.toNat - 'a'.toNat + 10)
    else if 'A' ≤ c ∧ c ≤ 'F' then some (c.toNat - 'A'.toNat + 10)
    else none
  value.filter (· < base)

/-- Reads digits behind a value read so far; whichever fault comes first counts. -/
def digits (base : Nat) : Nat → List Char → Except NumberFault Nat
  | value, [] => .ok value
  | value, c :: rest =>
    match digit? base c with
    | none => .error .invalidDigit
    | some d =>
      let next := base * value + d
      if 255 < next then .error .tooLarge else digits base next rest

/-- A number of one byte: digits, behind one plus sign at most. -/
def read (base : Nat) (cs : List Char) : Except NumberFault Nat :=
  match cs with
  | [] => .error .empty
  | ['+'] => .error .invalidDigit
  | '+' :: rest => digits base 0 rest
  | cs => digits base 0 cs

section

variable {base value n : Nat} {cs : List Char}

theorem digits_le (hvalue : value ≤ 255) (h : digits base value cs = .ok n) : n ≤ 255 := by
  induction cs generalizing value with
  | nil =>
    obtain rfl := Except.ok.inj h
    exact hvalue
  | cons c rest ih =>
    rw [digits] at h
    split at h
    · cases h
    dsimp only at h
    split at h
    · cases h
    · rename_i hnext
      exact ih (Nat.le_of_not_lt hnext) h

theorem read_le (h : read base cs = .ok n) : n ≤ 255 := by
  unfold read at h
  split at h
  · cases h
  · cases h
  · exact digits_le (Nat.zero_le _) h
  · exact digits_le (Nat.zero_le _) h

end

end ByteText

/-- Why a text is no list of device indices. -/
inductive VmmFault
  | badRange (text : String) (cause : NumberFault)
  | inverted (text : String)
  | badIndex (piece : String) (cause : NumberFault)
  deriving DecidableEq

def VmmFault.message : VmmFault → String
  | .badRange text cause => "bad vmm range " ++ Text.quoted text ++ ": " ++ cause.message
  | .inverted text => "vmm range " ++ Text.quoted text ++ " is inverted"
  | .badIndex piece cause => "bad vmm index " ++ Text.quoted piece ++ ": " ++ cause.message

namespace VmmSpec

/-- All indices from `first` to `last`. -/
def range (first last : Nat) : List UInt8 :=
  (List.range (last + 1 - first)).map fun k ↦ UInt8.ofNat (first + k)

/-- A range, given what stands before and after its first dash. -/
private def parseRange (text before after : List Char) : Except VmmFault (List UInt8) := do
  let bound (part : List Char) : Except VmmFault Nat :=
    (ByteText.read 10 (Text.trim part)).mapError (.badRange (String.ofList text))
  let first ← bound before
  let last ← bound after
  if last < first then throw (.inverted (String.ofList text))
  return range first last

private def parseIndex (piece : List Char) : Except VmmFault UInt8 :=
  match ByteText.read 10 (Text.trim piece) with
  | .ok n => .ok (UInt8.ofNat n)
  | .error cause => .error (.badIndex (String.ofList piece) cause)

private def isBlankPiece (piece : List Char) : Bool := piece.all Text.isBlank

/-- Device indices of a text, in the order written and with repetitions. -/
def parse (text : String) : Except VmmFault (List UInt8) :=
  let trimmed := Text.trim text.toList
  match Text.splitAtFirst '-' trimmed with
  | some (before, after) => parseRange trimmed before after
  | none =>
    ((Text.splitOn ';' trimmed).filter fun piece ↦ !isBlankPiece piece).mapM parseIndex

/-! ## Texts that are read -/

section

variable {text : String} {vmms : List UInt8} {before after piece : List Char}

/-- With a dash, the bounds before and after the first one are read. -/
theorem parse_eq_ok_iff_of_dash
    (hsplit : Text.splitAtFirst '-' (Text.trim text.toList) = some (before, after)) :
    parse text = .ok vmms ↔ ∃ first last, ByteText.read 10 (Text.trim before) = .ok first ∧
      ByteText.read 10 (Text.trim after) = .ok last ∧ first ≤ last ∧ vmms = range first last := by
  have hparse : parse text = parseRange (Text.trim text.toList) before after := by
    rw [parse, hsplit]
  rw [hparse]
  dsimp only [parseRange]
  cases ByteText.read 10 (Text.trim before) with
  | error cause => exact ⟨nofun, nofun⟩
  | ok first =>
    cases ByteText.read 10 (Text.trim after) with
    | error cause => exact ⟨nofun, nofun⟩
    | ok last =>
      change (if last < first then Except.error _ else Except.ok (range first last)) = _ ↔ _
      by_cases hinverted : last < first
      · rw [if_pos hinverted]
        simp [Nat.not_le.mpr hinverted]
      · rw [if_neg hinverted]
        simp [Nat.le_of_not_lt hinverted, eq_comm]

private theorem parseIndex_eq_ok_iff {vmm : UInt8} :
    parseIndex piece = .ok vmm ↔ ByteText.read 10 (Text.trim piece) = .ok vmm.toNat := by
  rw [parseIndex]
  cases hread : ByteText.read 10 (Text.trim piece) with
  | error cause => simp
  | ok n =>
    have hbyte : n % 256 = n := Nat.mod_eq_of_lt (Nat.lt_succ_of_le (ByteText.read_le hread))
    simp [← UInt8.toNat_inj, hbyte]

/-- Without one, every piece that is not blank is read. -/
theorem parse_eq_ok_iff_of_noDash (hdash : '-' ∉ Text.trim text.toList) :
    parse text = .ok vmms ↔
      ((Text.splitOn ';' (Text.trim text.toList)).filter fun piece ↦ !piece.all Text.isBlank).map
        (fun piece ↦ ByteText.read 10 (Text.trim piece)) = vmms.map fun vmm ↦ .ok vmm.toNat := by
  have hparse : parse text = ((Text.splitOn ';' (Text.trim text.toList)).filter fun piece ↦
      !piece.all Text.isBlank).mapM parseIndex := by
    rw [parse, Text.splitAtFirst_eq_none_iff.mpr hdash]
    rfl
  rw [hparse]
  generalize (Text.splitOn ';' (Text.trim text.toList)).filter _ = pieces
  induction pieces generalizing vmms with
  | nil => cases vmms <;> simp [pure, Except.pure]
  | cons piece pieces ih =>
    rw [List.mapM_cons]
    cases vmms with
    | nil =>
      cases parseIndex piece with
      | error cause => exact ⟨nofun, nofun⟩
      | ok n => cases pieces.mapM parseIndex <;> exact ⟨nofun, nofun⟩
    | cons vmm vmms =>
      rw [List.map_cons, List.map_cons, List.cons.injEq]
      refine Iff.trans ?_ (and_congr parseIndex_eq_ok_iff ih)
      cases parseIndex piece with
      | error cause => exact ⟨nofun, nofun⟩
      | ok n => cases pieces.mapM parseIndex <;> simp [bind, Except.bind, pure, Except.pure]

end

end VmmSpec

end ThresholdTrim
