import Mathlib.Data.List.Forall2
import ThresholdTrim.Config.VmmSpec

/-!
# Which texts list device indices

A text with a dash lists the range between the numbers before and after its first dash, and any
other text the numbers between its semicolons. `VmmSpec.Lists` says so without an order of reading:
a text is put together from pieces, and a piece is blank, or a number of one byte with white space
around it. Reading accepts exactly these texts, with the indices they list. So what is written for
a list of indices, or for a range of them, is read back.
-/

namespace ThresholdTrim

/-! ## Numbers of one byte -/

namespace ByteText

variable {cs : List Char} {value n : Nat} {c : Char}

/-- A number as a text: decimal digits, behind one plus sign at most. Zeros may lead. -/
def IsNumeral (text : List Char) (n : Nat) : Prop :=
  ∃ digits, (text = digits ∨ text = '+' :: digits) ∧ digits ≠ [] ∧
    (∀ c ∈ digits, c.isDigit = true) ∧ Nat.ofDigitChars 10 digits 0 = n

theorem digit?_ten_eq_some_iff {d : Nat} :
    digit? 10 c = some d ↔ c.isDigit = true ∧ c.toNat - '0'.toNat = d := by
  rw [digit?, Option.filter_eq_some_iff, decide_eq_true_iff]
  constructor
  · rintro ⟨hvalue, hten⟩
    split at hvalue
    · rename_i hdigit
      exact ⟨hdigit, Option.some.inj hvalue⟩
    · -- letters are digits of other bases
      repeat' split at hvalue
      all_goals simp only [Option.some.injEq, reduceCtorEq] at hvalue
      all_goals omega
  · rintro ⟨hdigit, rfl⟩
    rw [if_pos hdigit]
    have hbounds : 48 ≤ c.toNat ∧ c.toNat ≤ 57 := Char.isDigit_iff_toNat.mp hdigit
    refine ⟨rfl, ?_⟩
    change c.toNat - 48 < 10
    omega

theorem le_ofDigitChars (cs : List Char) (value : Nat) :
    value ≤ Nat.ofDigitChars 10 cs value := by
  induction cs generalizing value with
  | nil => exact Nat.le_refl _
  | cons c rest ih =>
    rw [Nat.ofDigitChars_cons]
    have := ih (10 * value + (c.toNat - '0'.toNat))
    omega

/-- A value that is too large stays so, whatever digits follow. -/
theorem digits_eq_ok_iff (hvalue : value ≤ 255) : digits 10 value cs = .ok n ↔
    (∀ c ∈ cs, c.isDigit = true) ∧ Nat.ofDigitChars 10 cs value = n ∧ n ≤ 255 := by
  induction cs generalizing value with
  | nil =>
    rw [digits, Except.ok.injEq]
    constructor
    · intro h
      exact ⟨by simp, h, h ▸ hvalue⟩
    · exact fun h ↦ h.2.1
  | cons c rest ih =>
    rw [digits, List.forall_mem_cons, Nat.ofDigitChars_cons]
    cases hdigit : digit? 10 c with
    | none =>
      constructor
      · intro h
        cases h
      · rintro ⟨⟨hc, _⟩, _⟩
        cases hdigit.symm.trans (digit?_ten_eq_some_iff.mpr ⟨hc, rfl⟩)
    | some d =>
      obtain ⟨hc, rfl⟩ := digit?_ten_eq_some_iff.mp hdigit
      dsimp only
      split
      · rename_i hlarge
        constructor
        · intro h
          cases h
        · rintro ⟨_, hn, hbyte⟩
          have hgrows := le_ofDigitChars rest (10 * value + (c.toNat - '0'.toNat))
          omega
      · rename_i hsmall
        rw [ih (Nat.le_of_not_lt hsmall)]
        simp only [hc, true_and]

theorem isNumeral_of_ne_plus (hplus : cs.head? ≠ some '+') : IsNumeral cs n ↔
    cs ≠ [] ∧ (∀ c ∈ cs, c.isDigit = true) ∧ Nat.ofDigitChars 10 cs 0 = n := by
  constructor
  · rintro ⟨digits, rfl | rfl, h⟩
    · exact h
    · exact absurd rfl hplus
  · exact fun h ↦ ⟨cs, .inl rfl, h⟩

theorem isNumeral_plus : IsNumeral ('+' :: cs) n ↔
    cs ≠ [] ∧ (∀ c ∈ cs, c.isDigit = true) ∧ Nat.ofDigitChars 10 cs 0 = n := by
  constructor
  · rintro ⟨digits, rfl | htext, h⟩
    · -- the sign is no digit
      exact absurd (h.2.1 '+' List.mem_cons_self) (by decide)
    · obtain rfl := (List.cons.inj htext).2
      exact h
  · exact fun h ↦ ⟨cs, .inr rfl, h⟩

theorem read_eq_ok_iff : read 10 cs = .ok n ↔ IsNumeral cs n ∧ n ≤ 255 := by
  unfold read
  split
  · rw [isNumeral_of_ne_plus (by simp)]
    exact ⟨nofun, fun h ↦ absurd rfl h.1.1⟩
  · rw [isNumeral_plus]
    exact ⟨nofun, fun h ↦ absurd rfl h.1.1⟩
  · rename_i rest hrest
    have hne : rest ≠ [] := fun hnil ↦ hrest (by rw [hnil])
    rw [isNumeral_plus, digits_eq_ok_iff (Nat.zero_le _)]
    simp only [hne, ne_eq, not_false_eq_true, true_and, and_assoc]
  · rename_i hne _ hplus
    have hhead : cs.head? ≠ some '+' := by
      intro hhead
      obtain ⟨rest, rfl⟩ := List.head?_eq_some_iff.mp hhead
      exact hplus rest rfl
    rw [isNumeral_of_ne_plus hhead, digits_eq_ok_iff (Nat.zero_le _)]
    simp only [show cs ≠ [] from hne, ne_eq, not_false_eq_true, true_and, and_assoc]

end ByteText

namespace VmmSpec

open Text ByteText

variable {text : String} {cs : List Char} {vmms : List UInt8} {first last : Nat}

/-! ## Lists and ranges -/

/-- A number of one byte, with white space around it or not. -/
def IsIndex (text : List Char) (n : Nat) : Prop :=
  ∃ core, IsTrimmed core text ∧ IsNumeral core n ∧ n ≤ 255

/-- The indices that a trimmed text lists. -/
inductive Lists : List Char → List UInt8 → Prop
  /-- With a dash, all from the number before the first one to the number after it. -/
  | range {before after : List Char} {first last : Nat} {vmms : List UInt8}
    (hdash : '-' ∉ before) (hfirst : IsIndex before first) (hlast : IsIndex after last)
    (hle : first ≤ last) (hvmms : vmms.map UInt8.toNat = List.range' first (last - first + 1)) :
    Lists (before ++ '-' :: after) vmms
  /-- Without one, the numbers between semicolons, as they come. -/
  | pieces {pieces : List (List Char)} {vmms : List UInt8}
    (hne : pieces ≠ []) (hapart : ∀ piece ∈ pieces, ';' ∉ piece)
    (hdash : '-' ∉ [';'].intercalate pieces)
    (hindices : List.Forall₂ (fun piece vmm ↦ IsIndex piece vmm.toNat)
      (pieces.filter fun piece ↦ !piece.all isBlank) vmms) :
    Lists ([';'].intercalate pieces) vmms

theorem read_trim_eq_ok_iff {n : Nat} : read 10 (trim cs) = .ok n ↔ IsIndex cs n := by
  simp only [read_eq_ok_iff, IsIndex, isTrimmed_iff, exists_eq_left']

theorem map_toNat_range (hle : first ≤ last) (hbyte : last ≤ 255) :
    (range first last).map UInt8.toNat = List.range' first (last - first + 1) := by
  rw [range, List.map_map, List.range'_eq_map_range, Nat.sub_add_comm hle]
  refine List.map_congr_left fun k hk ↦ ?_
  rw [List.mem_range] at hk
  have hsum : first + k < 256 := by omega
  exact UInt8.toNat_ofNat_of_lt' hsum

theorem forall₂_isIndex_iff {pieces : List (List Char)} :
    List.Forall₂ (fun piece (vmm : UInt8) ↦ IsIndex piece vmm.toNat) pieces vmms ↔
      pieces.map (fun piece ↦ read 10 (trim piece)) = vmms.map fun vmm ↦ .ok vmm.toNat := by
  simp only [← read_trim_eq_ok_iff, ← List.forall₂_eq_eq_eq, List.forall₂_map_left_iff,
    List.forall₂_map_right_iff]

/-- A text is read if and only if it lists indices, and as these. -/
theorem parse_eq_ok_iff : parse text = .ok vmms ↔ Lists (trim text.toList) vmms := by
  generalize htext : trim text.toList = cs
  constructor
  · intro h
    cases hsplit : splitAtFirst '-' cs with
    | some parts =>
      obtain ⟨before, after⟩ := parts
      obtain ⟨first, last, hfirst, hlast, hle, rfl⟩ :=
        (parse_eq_ok_iff_of_dash (htext ▸ hsplit)).mp h
      obtain ⟨rfl, hdash⟩ := splitAtFirst_eq_some_iff.mp hsplit
      exact .range hdash (read_trim_eq_ok_iff.mp hfirst) (read_trim_eq_ok_iff.mp hlast) hle
        (map_toNat_range hle (read_le hlast))
    | none =>
      have hdash := splitAtFirst_eq_none_iff.mp hsplit
      rw [parse_eq_ok_iff_of_noDash (htext ▸ hdash), htext] at h
      obtain ⟨hne, hapart, hjoined⟩ := splitOn_eq_iff.mp (rfl : splitOn ';' cs = _)
      rw [hjoined]
      refine .pieces hne hapart (hjoined ▸ hdash) (forall₂_isIndex_iff.mpr h)
  · intro h
    cases h with
    | range hdash hfirst hlast hle hvmms =>
      rw [parse_eq_ok_iff_of_dash (htext ▸ splitAtFirst_eq_some_iff.mpr ⟨rfl, hdash⟩)]
      have hread := read_trim_eq_ok_iff.mpr hlast
      refine ⟨_, _, read_trim_eq_ok_iff.mpr hfirst, hread, hle, ?_⟩
      rw [← map_toNat_range hle (read_le hread)] at hvmms
      exact List.map_injective_iff.mpr (fun _ _ ↦ UInt8.toNat_inj.mp) hvmms
    | pieces hne hapart hdash hindices =>
      rw [parse_eq_ok_iff_of_noDash (htext ▸ hdash), htext, splitOn_intercalate hne hapart]
      exact forall₂_isIndex_iff.mp hindices

/-! ## Written lists -/

/-- Indices one by one. -/
def render (vmms : List UInt8) : String := ";".intercalate (vmms.map fun vmm ↦ vmm.toNat.repr)

/-- A range of indices by its ends. -/
def renderRange (first last : UInt8) : String := first.toNat.repr ++ "-" ++ last.toNat.repr

theorem isBlank_of_isDigit {c : Char} (h : c.isDigit = true) : isBlank c = false := by
  have hbounds : 48 ≤ c.toNat ∧ c.toNat ≤ 57 := Char.isDigit_iff_toNat.mp h
  simp only [isBlank]
  grind

theorem isDigit_of_mem_toDigits {c : Char} {n : Nat} (h : c ∈ Nat.toDigits 10 n) :
    c.isDigit = true :=
  Nat.isDigit_of_mem_toDigits (by decide) (by decide) h

theorem isTrimmed_self (h : ∀ c ∈ cs, isBlank c = false) : IsTrimmed cs cs where
  within := ⟨[], [], by simp, nofun, nofun⟩
  head c hc := h c (List.mem_of_mem_head? hc)
  last c hc := h c (List.mem_of_getLast? hc)

theorem parse_eq_ok_iff_of_noBlank (h : ∀ c ∈ text.toList, isBlank c = false) :
    parse text = .ok vmms ↔ Lists text.toList vmms := by
  rw [parse_eq_ok_iff, (isTrimmed_self h).trim_eq]

/-- The digits of a byte are an index. -/
theorem isIndex_toDigits {n : Nat} (hbyte : n ≤ 255) : IsIndex (Nat.toDigits 10 n) n := by
  have hdigits : ∀ c ∈ Nat.toDigits 10 n, c.isDigit = true := fun _ ↦ isDigit_of_mem_toDigits
  refine ⟨_, isTrimmed_self fun c hc ↦ isBlank_of_isDigit (hdigits c hc), ?_, hbyte⟩
  exact ⟨_, .inl rfl, Nat.toDigits_ne_nil, hdigits, Nat.ofDigitChars_ten_toDigits⟩

theorem mem_intercalate {c separator : Char} {pieces : List (List Char)}
    (h : c ∈ [separator].intercalate pieces) : c = separator ∨ ∃ piece ∈ pieces, c ∈ piece := by
  induction pieces with
  | nil => cases h
  | cons piece rest ih =>
    cases rest with
    | nil => exact .inr ⟨piece, List.mem_cons_self, by rwa [List.intercalate_singleton] at h⟩
    | cons next rest =>
      rw [List.intercalate_cons_cons, List.append_assoc, List.mem_append, List.mem_append,
        List.mem_singleton] at h
      rcases h with h | h | h
      · exact .inr ⟨piece, List.mem_cons_self, h⟩
      · exact .inl h
      · exact (ih h).imp_right fun ⟨found, hmem, hc⟩ ↦ ⟨found, List.mem_cons_of_mem _ hmem, hc⟩

/-- The digits of indices, one index a piece. -/
private def written (vmms : List UInt8) : List (List Char) :=
  vmms.map fun vmm ↦ Nat.toDigits 10 vmm.toNat

private theorem isDigit_of_mem_written {piece : List Char} (hpiece : piece ∈ written vmms)
    {c : Char} (hc : c ∈ piece) : c.isDigit = true := by
  obtain ⟨vmm, _, rfl⟩ := List.mem_map.mp hpiece
  exact isDigit_of_mem_toDigits hc

/-- No written index is blank. -/
private theorem filter_written :
    (written vmms).filter (fun piece ↦ !piece.all isBlank) = written vmms := by
  refine List.filter_eq_self.mpr fun piece hpiece ↦ ?_
  obtain ⟨vmm, _, rfl⟩ := List.mem_map.mp hpiece
  obtain ⟨c, hc⟩ := List.exists_mem_of_ne_nil _ (Nat.toDigits_ne_nil (n := vmm.toNat) (b := 10))
  have hblank := isBlank_of_isDigit (isDigit_of_mem_toDigits hc)
  rw [Bool.not_eq_true', List.all_eq_false]
  exact ⟨c, hc, by simp [hblank]⟩

theorem lists_written : Lists ([';'].intercalate (written vmms)) vmms := by
  have hindices : List.Forall₂ (fun piece (vmm : UInt8) ↦ IsIndex piece vmm.toNat)
      (written vmms) vmms := by
    rw [written, List.forall₂_map_left_iff, List.forall₂_same]
    exact fun vmm _ ↦ isIndex_toDigits (Nat.le_of_lt_succ vmm.toNat_lt)
  cases vmms with
  | nil =>
    -- nothing written is one blank piece
    have hblank : Lists ([';'].intercalate [[]]) [] :=
      .pieces (List.cons_ne_nil _ _) (by simp) nofun .nil
    exact hblank
  | cons vmm vmms =>
    refine .pieces (List.cons_ne_nil _ _) (fun piece hpiece hsemicolon ↦ ?_) (fun hdash ↦ ?_) ?_
    · exact absurd (isDigit_of_mem_written hpiece hsemicolon) (by decide)
    · rcases mem_intercalate hdash with hsemicolon | ⟨piece, hpiece, hdash⟩
      · exact absurd hsemicolon (by decide)
      · exact absurd (isDigit_of_mem_written hpiece hdash) (by decide)
    · rwa [filter_written]

theorem parse_render (vmms : List UInt8) : parse (render vmms) = .ok vmms := by
  have htext : (render vmms).toList = [';'].intercalate (written vmms) := by
    rw [render, String.toList_intercalate, List.map_map, written]
    simp [Function.comp_def, Nat.toList_repr]
  have hblank : ∀ c ∈ (render vmms).toList, isBlank c = false := by
    intro c hc
    rw [htext] at hc
    rcases mem_intercalate hc with rfl | ⟨piece, hpiece, hc⟩
    · decide
    · exact isBlank_of_isDigit (isDigit_of_mem_written hpiece hc)
  rw [parse_eq_ok_iff_of_noBlank hblank, htext]
  exact lists_written

theorem parse_renderRange {first last : UInt8} (hle : first ≤ last) :
    parse (renderRange first last) = .ok (range first.toNat last.toNat) := by
  have htext : (renderRange first last).toList =
      Nat.toDigits 10 first.toNat ++ '-' :: Nat.toDigits 10 last.toNat := by
    simp [renderRange, Nat.toList_repr]
  have hblank : ∀ c ∈ (renderRange first last).toList, isBlank c = false := by
    intro c hc
    rw [htext, List.mem_append, List.mem_cons] at hc
    rcases hc with hc | rfl | hc
    · exact isBlank_of_isDigit (isDigit_of_mem_toDigits hc)
    · decide
    · exact isBlank_of_isDigit (isDigit_of_mem_toDigits hc)
  have hbyte : last.toNat ≤ 255 := Nat.le_of_lt_succ last.toNat_lt
  have hle : first.toNat ≤ last.toNat := UInt8.le_iff_toNat_le.mp hle
  rw [parse_eq_ok_iff_of_noBlank hblank, htext]
  refine .range (fun hdash ↦ ?_) (isIndex_toDigits (Nat.le_trans hle hbyte))
    (isIndex_toDigits hbyte) hle (map_toNat_range hle hbyte)
  exact absurd (isDigit_of_mem_toDigits hdash) (by decide)

/-- A text is read if and only if it lists indices, and what is written for indices is read back:
one by one, or as the range between two of them. -/
theorem parse_follows_grammar :
    (∀ text vmms, parse text = .ok vmms ↔
      ∃ core, IsTrimmed core text.toList ∧ Lists core vmms) ∧
    (∀ vmms, parse (render vmms) = .ok vmms) ∧
    ∀ first last : UInt8, first ≤ last → ∃ vmms, parse (renderRange first last) = .ok vmms ∧
      vmms.map UInt8.toNat = List.range' first.toNat (last.toNat - first.toNat + 1) := by
  refine ⟨fun text vmms ↦ ?_, parse_render, fun first last hle ↦ ?_⟩
  · simp only [parse_eq_ok_iff, isTrimmed_iff, exists_eq_left']
  · have hbyte : last.toNat ≤ 255 := Nat.le_of_lt_succ last.toNat_lt
    exact ⟨_, parse_renderRange hle, map_toNat_range (UInt8.le_iff_toNat_le.mp hle) hbyte⟩

example : parse " 1; +004;; 1" = .ok [1, 4, 1] := rfl

/-- A range may end with the last index a byte can hold. -/
theorem parse_follows_grammar_last_bytes :
    (253 : UInt8) ≤ 255 ∧ renderRange 253 255 = "253-255" ∧
      ∃ vmms, parse (renderRange 253 255) = .ok vmms ∧
        vmms.map UInt8.toNat = [253, 254, 255] :=
  ⟨by decide, by decide, parse_follows_grammar.2.2 253 255 (by decide)⟩

end VmmSpec

end ThresholdTrim
