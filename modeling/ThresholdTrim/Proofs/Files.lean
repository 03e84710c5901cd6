import Mathlib
import ThresholdTrim.Command.Files
import ThresholdTrim.Proofs.Course

/-!
# Written texts are found again

A text that was written at a path is read back there, and what is at another place stays. That the
paths lead where they led before takes an argument, as a path may go through any place and back up
again: a file is only ever put where no directory is, and it is directories that steps start in
(`follow_insert`).

Two files of one directory are told apart by their names, which are the last steps on the way to
them.
-/

namespace ThresholdTrim

/-! ## Paths of files in a directory -/

/-- A name is one that a path can end in. -/
structure IsFileName (name : String) : Prop where
  noSlash : '/' ∉ name.toList
  step : Step.ofPart name = .down name
  nonempty : name ≠ ""

/-- The path of a file in a directory ends in the name of the file. -/
theorem exists_steps_joinPath {dir name : String} (hname : IsFileName name) :
    ∃ steps, (FilePath.ofText (joinPath dir name)).steps = steps ++ [.down name] := by
  have hlast : ([name].filter (· ≠ "")).map Step.ofPart = [.down name] := by
    simp [hname.nonempty, hname.step]
  -- the name stands alone, or behind a slash
  have hsteps : ∀ {text : String},
      text = name ∨ (∃ before, text.toList = before ++ '/' :: name.toList) →
        ∃ steps, Step.ofText text = steps ++ [.down name] := by
    rintro text (rfl | ⟨before, htext⟩)
    · refine ⟨[], ?_⟩
      rw [Step.ofText, Text.splitOn_of_notMem hname.noSlash, List.map_singleton,
        String.ofList_toList, List.nil_append]
      exact hlast
    · refine ⟨(((Text.splitOn '/' before).map String.ofList).filter (· ≠ "")).map Step.ofPart, ?_⟩
      rw [Step.ofText, htext, Text.splitOn_append, Text.splitOn_of_notMem hname.noSlash,
        List.map_append, List.map_singleton, String.ofList_toList]
      rw [List.filter_append, List.map_append, hlast]
  apply hsteps
  rw [joinPath]
  split
  · exact .inl rfl
  right
  split
  · rename_i hslash
    rw [← String.endsWith_toSlice, String.Slice.endsWith_string_iff] at hslash
    obtain ⟨before, hbefore⟩ := hslash
    refine ⟨before, ?_⟩
    rw [String.toList_append, ← String.copy_toSlice (s := dir), ← hbefore]
    simp
  · exact ⟨dir.toList, by simp⟩

namespace Files

variable {files files' : Files} {path other : FilePath} {place last : Place} {text : String}
  {steps : List Step}

/-- A step leads on from a directory, if the name it goes down to is not too long. -/
theorem follow_cons_eq_ok_iff {step : Step} : files.follow place (step :: steps) = .ok last ↔
    files.node? place = some .directory ∧
      (∀ name, step = .down name → name.utf8ByteSize ≤ Place.maxName) ∧
      files.follow (place.step step) steps = .ok last := by
  rw [follow.eq_def]
  dsimp only
  cases hnode : files.node? place with
  | none => simp
  | some node =>
    cases node with
    | file => simp
    | directory =>
      cases step with
      | stay | up => simp
      | down name =>
        dsimp only
        split
        · rename_i hlong
          simp [Nat.not_le.mpr hlong]
        · rename_i hshort
          simp [Nat.le_of_not_lt hshort]

/-- A file that is put where no directory is stands in no way. -/
theorem follow_insert {spot : Place} (hspot : files.node? spot ≠ some .directory)
    (h : files.follow place steps = .ok last) :
    (files.insert spot (.file text)).follow place steps = .ok last := by
  induction steps generalizing place with
  | nil => exact h
  | cons step steps ih =>
    obtain ⟨hplace, hshort, hrest⟩ := follow_cons_eq_ok_iff.mp h
    refine follow_cons_eq_ok_iff.mpr ⟨?_, hshort, ih hrest⟩
    -- the step starts in a directory, which is somewhere else
    rw [node?_insert]
    split
    · rfl
    · rw [if_neg fun hsame : place = spot ↦ hspot (hsame ▸ hplace)]
      exact hplace

theorem names_of_follow {name : String}
    (h : files.follow place (steps ++ [.down name]) = .ok last) : last.names.head? = some name := by
  induction steps generalizing place with
  | nil =>
    obtain ⟨_, _, hlast⟩ := follow_cons_eq_ok_iff.mp h
    obtain rfl := Except.ok.inj hlast
    rfl
  | cons step steps ih => exact ih (follow_cons_eq_ok_iff.mp h).2.2

/-- A text can be written at a place where there is no directory. -/
theorem write_eq_ok_iff : (write path text).run files = (.ok (), files') ↔
    path.closed = false ∧ ∃ place, files.locate path = .ok place ∧
      files.node? place ≠ some .directory ∧ files' = files.insert place (.file text) := by
  have hget : ∀ next : Files → Work Unit,
      ((get : Work Files) >>= next).run files = (next files).run files := fun _ ↦ rfl
  have hlift : ∀ (place : Place) (next : Place → Work Unit),
      ((liftM (Except.ok place : Except FileFault Place) : Work Place) >>= next).run files =
        (next place).run files := fun _ _ ↦ rfl
  have hset : ∀ place, (set (files.insert place (.file text)) : Work Unit).run files =
      (.ok (), files') ↔ files' = files.insert place (.file text) := fun place ↦
    ⟨fun h ↦ (congrArg Prod.snd h).symm, fun h ↦ h ▸ rfl⟩
  rw [write, update, hget]
  cases files.locate path with
  | error fault => exact ⟨nofun, fun ⟨_, _, h, _⟩ ↦ nomatch h⟩
  | ok place =>
    rw [hlift]
    simp only [Except.ok.injEq, exists_eq_left']
    cases path.closed with
    | true => exact ⟨nofun, nofun⟩
    | false =>
      cases files.node? place with
      | none => exact (hset place).trans ⟨fun h ↦ ⟨rfl, nofun, h⟩, fun h ↦ h.2.2⟩
      | some node =>
        cases node with
        | file => exact (hset place).trans ⟨fun h ↦ ⟨rfl, nofun, h⟩, fun h ↦ h.2.2⟩
        | directory => exact ⟨nofun, fun h ↦ absurd rfl h.2.1⟩

theorem read_eq_ok_iff : files.read path = .ok text ↔ path.closed = false ∧
    ∃ place, files.locate path = .ok place ∧ files.node? place = some (.file text) := by
  rw [read, find]
  cases files.locate path with
  | error fault => exact ⟨nofun, fun ⟨_, _, h, _⟩ ↦ nomatch h⟩
  | ok place =>
    simp only [bind, Except.bind, Except.ok.injEq, exists_eq_left']
    cases files.node? place with
    | none => cases path.closed <;> exact ⟨nofun, nofun⟩
    | some node =>
      cases node with
      | directory => cases path.closed <;> exact ⟨nofun, nofun⟩
      | file found =>
        cases path.closed with
        | true => exact ⟨nofun, nofun⟩
        | false =>
          constructor
          · intro h
            obtain rfl := Except.ok.inj h
            exact ⟨rfl, rfl⟩
          · rintro ⟨_, h⟩
            cases h
            rfl

/-- A written text is at its path. -/
theorem read_of_write (h : (write path text).run files = (.ok (), files')) :
    files'.read path = .ok text := by
  obtain ⟨hclosed, place, hlocate, hplace, rfl⟩ := write_eq_ok_iff.mp h
  refine read_eq_ok_iff.mpr ⟨hclosed, place, follow_insert hplace hlocate, ?_⟩
  rw [node?_insert, if_neg, if_pos rfl]
  intro htop
  rw [node?, if_pos htop] at hplace
  exact hplace rfl

/-- A text at another place is where it was. -/
theorem read_of_write_other {found : String} (h : (write path text).run files = (.ok (), files'))
    (hfound : files.read other = .ok found)
    (hother : ∀ place, files.locate path = .ok place → files.locate other ≠ .ok place) :
    files'.read other = .ok found := by
  obtain ⟨_, spot, hspot, hdirectory, rfl⟩ := write_eq_ok_iff.mp h
  obtain ⟨hclosed, place, hplace, hnode⟩ := read_eq_ok_iff.mp hfound
  refine read_eq_ok_iff.mpr ⟨hclosed, place, follow_insert hdirectory hplace, ?_⟩
  rw [node?_insert]
  split
  · rename_i htop
    rw [node?, if_pos htop] at hnode
    exact hnode
  · rw [if_neg fun hsame : place = spot ↦ hother spot hspot (hsame ▸ hplace)]
    exact hnode

end Files

end ThresholdTrim
