import ThresholdTrim.Document

/-!
# Objects through their view

An object is a list of members, but what it says is its view `lookup`. Two facts make the view
enough. Merging is settled key by key: `lookup_mergeMembers` says what is found under a key in terms
of what was there and what is written over it. And members in ascending order are told apart by
their view alone (`Ascending.eq_of_lookup_eq`), so that two documents which say the same are equal.
-/

namespace ThresholdTrim.Json

variable {key other : String} {value json : Json} {members source : List (String × Json)}

/-- Keys of the members of an object; other values have none. -/
def keys : Json → List String
  | .obj members => members.map Prod.fst
  | _ => []

/-- Members in ascending order of their keys, each key once. -/
def Ascending (members : List (String × Json)) : Prop :=
  members.Pairwise fun a b ↦ a.1 < b.1

/-! ## Keys and what is found under them -/

theorem lookup_eq_none_iff : lookup key members = none ↔ ∀ member ∈ members, member.1 ≠ key := by
  induction members with
  | nil => simp [lookup]
  | cons member rest ih =>
    obtain ⟨k, v⟩ := member
    rw [lookup, List.forall_mem_cons]
    split
    · rename_i hsame
      constructor
      · intro h
        cases h
      · exact fun h ↦ absurd hsame h.1
    · rename_i hother
      exact ih.trans ⟨fun h ↦ ⟨hother, h⟩, And.right⟩

/-- Below the first key nothing is found. -/
theorem Ascending.lookup_eq_none {k : String} {v : Json} (h : Ascending ((k, v) :: members))
    (hbelow : key ≤ k) : lookup key members = none := by
  rw [lookup_eq_none_iff]
  rintro member hmem rfl
  exact absurd ((List.pairwise_cons.mp h).1 member hmem) (String.not_lt.mpr hbelow)

theorem mem_insert {member : String × Json} (h : member ∈ insert key value members) :
    member = (key, value) ∨ member ∈ members := by
  induction members with
  | nil => exact .inl (List.mem_singleton.mp h)
  | cons first rest ih =>
    obtain ⟨k, v⟩ := first
    rw [insert] at h
    split at h
    · exact List.mem_cons.mp h
    · exact (List.mem_cons.mp h).imp_right (List.mem_cons_of_mem _)
    · rcases List.mem_cons.mp h with rfl | h
      · exact .inr List.mem_cons_self
      · exact (ih h).imp_right (List.mem_cons_of_mem _)

theorem Ascending.insert (h : Ascending members) : Ascending (insert key value members) := by
  induction members with
  | nil => exact List.pairwise_singleton _ _
  | cons first rest ih =>
    obtain ⟨k, v⟩ := first
    obtain ⟨habove, hrest⟩ := List.pairwise_cons.mp h
    rw [Json.insert]
    split
    · rename_i hless
      have hless : key < k := compareOfLessAndEq_eq_lt.mp hless
      refine List.pairwise_cons.mpr ⟨fun member hmem ↦ ?_, h⟩
      rcases List.mem_cons.mp hmem with rfl | hmem
      · exact hless
      · exact String.lt_trans hless (habove member hmem)
    · rename_i hsame
      obtain rfl : key = k := by simpa using hsame
      exact List.pairwise_cons.mpr ⟨habove, hrest⟩
    · rename_i hgreater
      have hless : compare k key = .lt := Std.OrientedCmp.lt_of_gt hgreater
      have hless : k < key := compareOfLessAndEq_eq_lt.mp hless
      refine List.pairwise_cons.mpr ⟨fun member hmem ↦ ?_, ih hrest⟩
      rcases mem_insert hmem with rfl | hmem
      · exact hless
      · exact habove member hmem

/-- Members in ascending order are told apart by what is found among them. -/
theorem Ascending.eq_of_lookup_eq (h : Ascending members) (h' : Ascending source)
    (hsame : ∀ key, lookup key members = lookup key source) : members = source := by
  induction members generalizing source with
  | nil =>
    cases source with
    | nil => rfl
    | cons first rest => simpa [lookup] using hsame first.1
  | cons first rest ih =>
    obtain ⟨k, v⟩ := first
    cases source with
    | nil => simpa [lookup] using hsame k
    | cons first' rest' =>
      obtain ⟨k', v'⟩ := first'
      -- the first keys agree, as neither is found behind the other
      have hle : ∀ {a b : String} {x y : Json} {xs ys : List (String × Json)},
          Ascending ((b, y) :: ys) → lookup a ((a, x) :: xs) = lookup a ((b, y) :: ys) →
            ¬ a < b := by
        intro a b x y xs ys hascending hfound hless
        have hnone := hascending.lookup_eq_none (String.not_lt.mp (String.lt_asymm hless))
        rw [lookup, if_pos rfl, lookup, if_neg (String.ne_of_lt hless).symm, hnone] at hfound
        cases hfound
      obtain rfl : k = k' :=
        String.le_antisymm (String.not_lt.mp (hle h (hsame k').symm))
          (String.not_lt.mp (hle h' (hsame k)))
      obtain rfl : v = v' := by simpa [lookup] using hsame k
      refine congrArg _ (ih (List.pairwise_cons.mp h).2 (List.pairwise_cons.mp h').2 fun key ↦ ?_)
      by_cases hfirst : k = key
      · subst hfirst
        rw [h.lookup_eq_none (String.le_refl _), h'.lookup_eq_none (String.le_refl _)]
      · simpa [lookup, hfirst] using hsame key

/-! ## Merging -/

/-- What is left of a member when `value` is written over it. -/
def overwrite (existing? : Option Json) (value : Json) : Json :=
  match existing? with
  | some existing => merge existing value
  | none => value

theorem mergeMembers_cons : mergeMembers members ((key, value) :: source) =
    mergeMembers (insert key (overwrite (lookup key members) value) members) source := by
  rw [mergeMembers]
  rfl

theorem ascending_mergeMembers (h : Ascending members) :
    Ascending (mergeMembers members source) := by
  induction source generalizing members with
  | nil =>
    rw [mergeMembers]
    exact h
  | cons member rest ih =>
    obtain ⟨k, v⟩ := member
    rw [mergeMembers_cons]
    exact ih h.insert

/-- Merging is settled key by key: a key that is written has its value written over what was
there, and any other keeps what it has. -/
theorem lookup_mergeMembers (hsource : Ascending source) :
    lookup key (mergeMembers members source) =
      match lookup key source with
      | some value => some (overwrite (lookup key members) value)
      | none => lookup key members := by
  induction source generalizing members with
  | nil =>
    rw [mergeMembers]
    rfl
  | cons member rest ih =>
    obtain ⟨k, v⟩ := member
    rw [mergeMembers_cons, ih (List.pairwise_cons.mp hsource).2, lookup]
    by_cases hfirst : k = key
    · subst hfirst
      rw [hsource.lookup_eq_none (String.le_refl _), if_pos rfl, lookup_insert, if_pos rfl]
    · simp only [if_neg hfirst, lookup_insert]

end ThresholdTrim.Json
