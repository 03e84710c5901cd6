/-!
# Texts and their parts

Names and numbers are trimmed of white space in the sense of Unicode. Main statements: the blanks of
core are blanks here; what is left of a trimmed text is told by `IsTrimmed`; a text is split at its
first separator, if it has one, and into pieces at all of them; a pattern occurs exactly when the
text splits around it (`occursIn_iff`).
-/

namespace ThresholdTrim.Text

/-- Characters with the property `White_Space`. -/
def isBlank (c : Char) : Bool :=
  let n := c.toNat
  (0x9 ≤ n && n ≤ 0xD) || n == 0x20 || n == 0x85 || n == 0xA0 || n == 0x1680
    || (0x2000 ≤ n && n ≤ 0x200A) || n == 0x2028 || n == 0x2029 || n == 0x202F || n == 0x205F
    || n == 0x3000

theorem isBlank_of_isWhitespace {c : Char} (h : c.isWhitespace = true) : isBlank c = true := by
  simp only [Char.isWhitespace, Bool.or_eq_true, decide_eq_true_eq] at h
  rcases h with ((h | h) | h) | h <;> subst h <;> decide

/-- The text without the blanks at its ends. -/
def trim (cs : List Char) : List Char :=
  ((cs.dropWhile isBlank).reverse.dropWhile isBlank).reverse

/-- What is left of a text without the blanks at its ends. -/
structure IsTrimmed (core text : List Char) : Prop where
  within : ∃ left right, text = left ++ core ++ right ∧
    (∀ c ∈ left, isBlank c = true) ∧ ∀ c ∈ right, isBlank c = true
  head : ∀ c ∈ core.head?, isBlank c = false
  last : ∀ c ∈ core.getLast?, isBlank c = false

private theorem dropWhile_isBlank_append {left rest : List Char}
    (hleft : ∀ c ∈ left, isBlank c = true) (hrest : ∀ c ∈ rest.head?, isBlank c = false) :
    (left ++ rest).dropWhile isBlank = rest := by
  rw [List.dropWhile_append_of_pos hleft]
  cases rest with
  | nil => rfl
  | cons c rest => rw [List.dropWhile_cons, hrest c rfl, if_neg Bool.false_ne_true]

theorem IsTrimmed.trim_eq {core text : List Char} (h : IsTrimmed core text) :
    trim text = core := by
  obtain ⟨⟨left, right, rfl, hleft, hright⟩, hhead, hlast⟩ := h
  by_cases hempty : core = []
  · -- no more than blanks, all of which go with the first pass
    subst hempty
    have hall : ∀ c ∈ left ++ [] ++ right, isBlank c = true := by
      intro c hc
      rw [List.append_nil, List.mem_append] at hc
      exact hc.elim (hleft c) (hright c)
    have hnothing : (left ++ [] ++ right ++ []).dropWhile isBlank = [] :=
      dropWhile_isBlank_append hall nofun
    rw [List.append_nil] at hnothing
    rw [trim, hnothing]
    rfl
  · have hstart : ∀ c ∈ (core ++ right).head?, isBlank c = false := by
      cases core with
      | nil => exact absurd rfl hempty
      | cons c rest => exact hhead
    have hend : ∀ c ∈ core.reverse.head?, isBlank c = false := by
      rw [List.head?_reverse]
      exact hlast
    rw [trim, List.append_assoc, dropWhile_isBlank_append hleft hstart, List.reverse_append,
      dropWhile_isBlank_append (fun c hc ↦ hright c (List.mem_reverse.mp hc)) hend,
      List.reverse_reverse]

theorem isTrimmed_trim (text : List Char) : IsTrimmed (trim text) text := by
  have hstops : ∀ (cs : List Char), ∀ c ∈ (cs.dropWhile isBlank).head?, isBlank c = false := by
    intro cs c hc
    have hhead := List.head?_dropWhile_not isBlank cs
    rw [Option.mem_def] at hc
    rwa [hc] at hhead
  have hblank : ∀ (cs : List Char), ∀ c ∈ cs.takeWhile isBlank, isBlank c = true :=
    fun cs ↦ List.all_eq_true.mp List.all_takeWhile
  let back := (text.dropWhile isBlank).reverse
  have hback : trim text ++ (back.takeWhile isBlank).reverse = text.dropWhile isBlank := by
    rw [trim, ← List.reverse_append, List.takeWhile_append_dropWhile, List.reverse_reverse]
  refine ⟨⟨text.takeWhile isBlank, (back.takeWhile isBlank).reverse, ?_, hblank text, ?_⟩, ?_, ?_⟩
  · rw [List.append_assoc, hback, List.takeWhile_append_dropWhile]
  · exact fun c hc ↦ hblank back c (List.mem_reverse.mp hc)
  · intro c hc
    refine hstops text c ?_
    rw [← hback, List.head?_append, Option.mem_def.mp hc]
    rfl
  · rw [trim, List.getLast?_reverse]
    exact hstops back

theorem isTrimmed_iff {core text : List Char} : IsTrimmed core text ↔ trim text = core :=
  ⟨IsTrimmed.trim_eq, fun h ↦ h ▸ isTrimmed_trim text⟩

/-- The pieces of a text between separators; one more than there are separators. -/
def splitOn (separator : Char) : List Char → List (List Char)
  | [] => [[]]
  | c :: rest =>
    if c = separator then [] :: splitOn separator rest
    else match splitOn separator rest with
      | piece :: pieces => (c :: piece) :: pieces
      | [] => [[c]]

/-- The parts before and after the first separator, if there is one. -/
def splitAtFirst (separator : Char) : List Char → Option (List Char × List Char)
  | [] => none
  | c :: rest =>
    if c = separator then some ([], rest)
    else (splitAtFirst separator rest).map fun (before, after) ↦ (c :: before, after)

/-! ## Pieces and parts -/

section

variable {separator : Char} {text before after : List Char}

theorem splitOn_ne_nil : splitOn separator text ≠ [] := by
  cases text with
  | nil => exact List.cons_ne_nil _ _
  | cons c rest =>
    rw [splitOn]
    split
    · exact List.cons_ne_nil _ _
    · split <;> exact List.cons_ne_nil _ _

theorem splitOn_of_notMem (h : separator ∉ text) : splitOn separator text = [text] := by
  induction text with
  | nil => rfl
  | cons c rest ih =>
    rw [List.mem_cons, not_or] at h
    rw [splitOn, if_neg (Ne.symm h.1), ih h.2]

/-- A text is split at a separator into the pieces before it and those after it. -/
theorem splitOn_append : splitOn separator (before ++ separator :: after) =
    splitOn separator before ++ splitOn separator after := by
  induction before with
  | nil =>
    rw [List.nil_append, splitOn, splitOn, if_pos rfl]
    rfl
  | cons c rest ih =>
    rw [List.cons_append, splitOn, splitOn, ih]
    split
    · rfl
    · cases hpieces : splitOn separator rest with
      | nil => exact absurd hpieces splitOn_ne_nil
      | cons piece pieces => rfl

/-- Pieces without a separator are found again between separators. -/
theorem splitOn_intercalate {pieces : List (List Char)} (hne : pieces ≠ [])
    (hapart : ∀ piece ∈ pieces, separator ∉ piece) :
    splitOn separator ([separator].intercalate pieces) = pieces := by
  induction pieces with
  | nil => exact absurd rfl hne
  | cons piece rest ih =>
    obtain ⟨hpiece, hrest⟩ := List.forall_mem_cons.mp hapart
    cases rest with
    | nil => rw [List.intercalate_singleton, splitOn_of_notMem hpiece]
    | cons next rest =>
      rw [List.intercalate_cons_cons, List.append_assoc, List.singleton_append, splitOn_append,
        splitOn_of_notMem hpiece, ih (List.cons_ne_nil _ _) hrest]
      rfl

theorem intercalate_splitOn : [separator].intercalate (splitOn separator text) = text := by
  induction text with
  | nil => rfl
  | cons c rest ih =>
    rw [splitOn]
    cases hpieces : splitOn separator rest with
    | nil => exact absurd hpieces splitOn_ne_nil
    | cons piece pieces =>
      rw [hpieces] at ih
      split
      · rename_i hsep
        rw [List.intercalate_cons_cons, ih, hsep]
        rfl
      · cases pieces <;> simp_all [List.intercalate_singleton, List.intercalate_cons_cons]

theorem separator_notMem_of_mem_splitOn {piece : List Char}
    (h : piece ∈ splitOn separator text) : separator ∉ piece := by
  induction text generalizing piece with
  | nil =>
    rw [splitOn, List.mem_singleton] at h
    rw [h]
    exact List.not_mem_nil
  | cons c rest ih =>
    rw [splitOn] at h
    cases hpieces : splitOn separator rest with
    | nil => exact absurd hpieces splitOn_ne_nil
    | cons first pieces =>
      rw [hpieces] at h ih
      split at h
      · rcases List.mem_cons.mp h with rfl | h
        · exact List.not_mem_nil
        · exact ih h
      · rename_i hother
        rcases List.mem_cons.mp h with rfl | h
        · exact List.not_mem_cons_of_ne_of_not_mem (Ne.symm hother) (ih List.mem_cons_self)
        · exact ih (List.mem_cons_of_mem _ h)

/-- The pieces of a text are the texts without a separator that it consists of. -/
theorem splitOn_eq_iff {pieces : List (List Char)} : splitOn separator text = pieces ↔
    pieces ≠ [] ∧ (∀ piece ∈ pieces, separator ∉ piece) ∧
      text = [separator].intercalate pieces := by
  constructor
  · rintro rfl
    exact ⟨splitOn_ne_nil, fun _ ↦ separator_notMem_of_mem_splitOn, intercalate_splitOn.symm⟩
  · rintro ⟨hne, hapart, rfl⟩
    exact splitOn_intercalate hne hapart

theorem splitAtFirst_eq_some_iff :
    splitAtFirst separator text = some (before, after) ↔
      text = before ++ separator :: after ∧ separator ∉ before := by
  induction text generalizing before with
  | nil => simp [splitAtFirst]
  | cons c rest ih =>
    rw [splitAtFirst]
    by_cases first : c = separator
    · cases before with
      | nil => simp [first, eq_comm]
      | cons d before =>
        simp only [first, if_true, Option.some.injEq, Prod.mk.injEq, List.cons_append,
          List.cons.injEq, List.mem_cons, not_or]
        grind
    · cases before with
      | nil => simp [first]
      | cons d before => grind [Option.map_eq_some_iff]

theorem splitAtFirst_eq_none_iff :
    splitAtFirst separator text = none ↔ separator ∉ text := by
  induction text with
  | nil => simp [splitAtFirst]
  | cons c rest ih =>
    rw [splitAtFirst]
    by_cases first : c = separator
    · simp [first]
    · simp [first, ih, Ne.symm first]

end

/-! ## Occurrences -/

/-- Whether the pattern occurs in the text. -/
def occursIn (pattern : List Char) : List Char → Bool
  | [] => pattern.isEmpty
  | c :: rest => pattern.isPrefixOf (c :: rest) || occursIn pattern rest

/-- Whether `pattern` occurs in `text`; the empty pattern occurs in every text. -/
def contains (text pattern : String) : Bool := occursIn pattern.toList text.toList

theorem occursIn_iff {pattern text : List Char} :
    occursIn pattern text = true ↔ ∃ before after, text = before ++ pattern ++ after := by
  induction text with
  | nil => simp [occursIn]
  | cons c rest ih =>
    rw [occursIn, Bool.or_eq_true, ih, List.isPrefixOf_iff_prefix]
    constructor
    · rintro (⟨after, h⟩ | ⟨before, after, h⟩)
      · exact ⟨[], after, by simp [h]⟩
      · exact ⟨c :: before, after, by simp [h]⟩
    · rintro ⟨before, after, h⟩
      cases before with
      | nil => exact .inl ⟨after, by simpa using h.symm⟩
      | cons d before =>
        simp only [List.cons_append, List.cons.injEq] at h
        exact .inr ⟨before, after, h.2⟩

/-- The text with its ASCII capitals in lower case. -/
def lowerAscii (text : String) : String := String.ofList (text.toList.map Char.toLower)

end ThresholdTrim.Text
