import ThresholdTrim.Proofs.Json

/-!
# Merging keeps what it need not change

What a document says is what stands at its paths (`Json.at?`), and merging goes down the paths of
the document that is written. Where that document ends in a value, the value is found afterwards;
where it has no member for the next key (`Json.Spares`), everything stays as it was. Merging a
document in twice is no more than merging it once. Two documents that agree wherever one of them has
more than an object (`Json.Compatible`) are merged into a third one in either order.

All of it takes objects as maps: the members of every object ascend (`Json.Canonical`), and merging
keeps them so. Each law is settled key by key, by what is found when one value may be there and one
may be written over it (`Json.layer`).
-/

namespace ThresholdTrim

namespace Json

variable {key : String} {path : List String} {a b c doc value v w : Json}
  {source : List (String × Json)}

/-! ## Values at paths -/

/-- The members of an object; other values have none. -/
def members : Json → List (String × Json)
  | .obj members => members
  | _ => []

/-- The value behind a path of keys. -/
def at? : Json → List String → Option Json
  | json, [] => some json
  | json, key :: rest => (lookup key json.members).bind fun value ↦ value.at? rest

def IsObject (json : Json) : Prop := json = .obj json.members

/-- The objects of a document are maps: at every path, the members ascend. -/
def Canonical (json : Json) : Prop :=
  ∀ path value, json.at? path = some value → Ascending value.members

/-- The path leaves a document at an object that has no member for the next key. -/
def Spares (doc : Json) (path : List String) : Prop :=
  ∃ before key after object, path = before ++ key :: after ∧ doc.at? before = some object ∧
    object.IsObject ∧ lookup key object.members = none

/-- At every path where both documents have a value, they have the same one, or objects. -/
def Compatible (b c : Json) : Prop :=
  ∀ path v w, b.at? path = some v → c.at? path = some w → v = w ∨ v.IsObject ∧ w.IsObject

theorem at?_cons_of_lookup (h : lookup key doc.members = some value) :
    doc.at? (key :: path) = value.at? path := by
  rw [at?, h, Option.bind_some]

theorem isObject_of_lookup (h : lookup key doc.members = some value) : doc.IsObject := by
  cases doc with
  | obj source => rfl
  | _ => cases h

theorem mem_of_lookup (h : lookup key source = some value) : (key, value) ∈ source := by
  induction source with
  | nil => cases h
  | cons member rest ih =>
    obtain ⟨k, v⟩ := member
    rw [lookup] at h
    split at h
    · rename_i hsame
      obtain rfl := Option.some.inj h
      rw [hsame]
      exact List.mem_cons_self
    · exact List.mem_cons_of_mem _ (ih h)

theorem sizeOf_lt_of_lookup (h : lookup key source = some value) :
    sizeOf value < sizeOf (Json.obj source) := by
  have hmember := List.sizeOf_lt_of_mem (mem_of_lookup h)
  rw [Prod.mk.sizeOf_spec] at hmember
  rw [obj.sizeOf_spec]
  omega

/-- A statement about documents is shown of an object from its members. -/
theorem members_induction {P : Json → Prop} (leaf : ∀ doc, ¬ doc.IsObject → P doc)
    (object : ∀ doc, doc.IsObject → (∀ key value, lookup key doc.members = some value → P value) →
      P doc) (doc : Json) : P doc := by
  by_cases hobject : doc.IsObject
  · exact object doc hobject fun key value h ↦ members_induction leaf object value
  · exact leaf doc hobject
termination_by sizeOf doc
decreasing_by
  rw [hobject]
  exact sizeOf_lt_of_lookup h

/-! ## Documents made of maps -/

namespace Canonical

theorem ascending (h : Canonical doc) : Ascending doc.members := h [] doc rfl

theorem of_lookup (h : Canonical doc) (hvalue : lookup key doc.members = some value) :
    Canonical value :=
  fun path v hv ↦ h (key :: path) v ((at?_cons_of_lookup hvalue).trans hv)

theorem of_members (hascending : Ascending doc.members)
    (h : ∀ key value, lookup key doc.members = some value → Canonical value) : Canonical doc := by
  intro path value hvalue
  cases path with
  | nil =>
    obtain rfl := Option.some.inj hvalue
    exact hascending
  | cons key rest =>
    obtain ⟨child, hchild, hvalue⟩ := Option.bind_eq_some_iff.mp hvalue
    exact h key child hchild rest value hvalue

theorem obj (hascending : Ascending source) (h : ∀ member ∈ source, Canonical member.2) :
    Canonical (.obj source) :=
  of_members hascending fun _ _ hvalue ↦ h _ (mem_of_lookup hvalue)

theorem empty : Canonical (.obj []) := obj .nil nofun

theorem singleton (h : Canonical value) : Canonical (.obj [(key, value)]) := by
  refine obj (List.pairwise_singleton _ _) fun member hmember ↦ ?_
  rwa [List.mem_singleton.mp hmember]

theorem of_not_isObject (h : ¬ doc.IsObject) : Canonical doc := by
  have hnone : doc.members = [] := by
    cases doc with
    | obj source => exact absurd rfl h
    | _ => rfl
  refine of_members (hnone ▸ .nil) fun key value hvalue ↦ ?_
  rw [hnone] at hvalue
  cases hvalue

/-- An object without objects in it. -/
theorem flat (hkeys : (source.map Prod.fst).Pairwise (· < ·))
    (h : ∀ member ∈ source, ¬ member.2.IsObject) : Canonical (.obj source) :=
  obj (List.pairwise_map.mp hkeys) fun member hmember ↦ of_not_isObject (h member hmember)

/-- Maps are told apart by what is found in them. -/
theorem eq_of_lookup (ha : Canonical a) (hb : Canonical b) (hobject : a.IsObject)
    (hobject' : b.IsObject) (h : ∀ key, lookup key a.members = lookup key b.members) : a = b := by
  rw [hobject, hobject', ha.ascending.eq_of_lookup_eq hb.ascending h]

end Canonical

/-! ## Merging key by key -/

/-- What is found under a key, when one value may be there and one may be written over it. -/
def layer (existing? : Option Json) : Option Json → Option Json
  | some value => some (overwrite existing? value)
  | none => existing?

theorem merge_of_not_isObject (h : ¬ b.IsObject) : merge a b = b := by
  cases b with
  | obj source => exact absurd rfl h
  | _ =>
    rw [merge]
    intro source h
    cases h

theorem mergeMembers_nil_left (h : Ascending source) : mergeMembers [] source = source := by
  refine (ascending_mergeMembers .nil).eq_of_lookup_eq h fun key ↦ ?_
  rw [lookup_mergeMembers h]
  cases lookup key source <;> rfl

/-- Members are written over those that are there; a value that is no object has none. -/
theorem merge_of_isObject (hb : Canonical b) (hobject : b.IsObject) :
    merge a b = .obj (mergeMembers a.members b.members) := by
  have hmembers := mergeMembers_nil_left hb.ascending
  rw [hobject]
  cases a with
  | obj target => rw [merge, members.eq_1, members.eq_1]
  | _ =>
    rw [merge]
    · exact congrArg obj hmembers.symm
    · intro target h
      cases h

theorem isObject_merge (hb : Canonical b) (hobject : b.IsObject) : (merge a b).IsObject := by
  rw [merge_of_isObject hb hobject]
  rfl

theorem lookup_merge (hb : Canonical b) (hobject : b.IsObject) :
    lookup key (merge a b).members = layer (lookup key a.members) (lookup key b.members) := by
  rw [merge_of_isObject hb hobject, members.eq_1, lookup_mergeMembers hb.ascending]
  cases lookup key b.members <;> rfl

theorem merge_empty_left (hb : Canonical b) (hobject : b.IsObject) : merge (.obj []) b = b := by
  rw [merge_of_isObject hb hobject, members.eq_1, mergeMembers_nil_left hb.ascending, ← hobject]

theorem canonical_merge (ha : Canonical a) (hb : Canonical b) : Canonical (merge a b) := by
  induction b using members_induction generalizing a with
  | leaf b hleaf =>
    rw [merge_of_not_isObject hleaf]
    exact hb
  | object b hobject ih =>
    refine .of_members ?_ fun key value hvalue ↦ ?_
    · rw [merge_of_isObject hb hobject]
      exact ascending_mergeMembers ha.ascending
    rw [lookup_merge hb hobject] at hvalue
    cases hwritten : lookup key b.members with
    | none =>
      rw [hwritten] at hvalue
      exact ha.of_lookup hvalue
    | some written =>
      rw [hwritten] at hvalue
      obtain rfl := Option.some.inj hvalue
      have hchild := hb.of_lookup hwritten
      cases hexisting : lookup key a.members with
      | none => exact hchild
      | some existing => exact ih key written hwritten (ha.of_lookup hexisting) hchild

/-! ## Merging again -/

theorem merge_self (h : Canonical a) : merge a a = a := by
  induction a using members_induction with
  | leaf a hleaf => exact merge_of_not_isObject hleaf
  | object a hobject ih =>
    refine (canonical_merge h h).eq_of_lookup h (isObject_merge h hobject) hobject fun key ↦ ?_
    rw [lookup_merge h hobject]
    cases hvalue : lookup key a.members with
    | none => rfl
    | some value => exact congrArg some (ih key value hvalue (h.of_lookup hvalue))

theorem merge_merge_self (ha : Canonical a) (hb : Canonical b) :
    merge (merge a b) b = merge a b := by
  induction b using members_induction generalizing a with
  | leaf b hleaf => rw [merge_of_not_isObject hleaf, merge_of_not_isObject hleaf]
  | object b hobject ih =>
    have hmerged := canonical_merge ha hb
    refine (canonical_merge hmerged hb).eq_of_lookup hmerged (isObject_merge hb hobject)
      (isObject_merge hb hobject) fun key ↦ ?_
    rw [lookup_merge hb hobject, lookup_merge hb hobject]
    cases hwritten : lookup key b.members with
    | none => rfl
    | some written =>
      have hchild := hb.of_lookup hwritten
      refine congrArg some ?_
      cases hexisting : lookup key a.members with
      | none => exact merge_self hchild
      | some existing => exact ih key written hwritten (ha.of_lookup hexisting) hchild

/-! ## What is found afterwards -/

theorem not_spares_nil : ¬ doc.Spares [] := by
  rintro ⟨before, key, after, _, hpath, _⟩
  cases before <;> cases hpath

theorem Spares.cons (h : doc.Spares (key :: path)) :
    doc.IsObject ∧ ∀ value, lookup key doc.members = some value → value.Spares path := by
  obtain ⟨before, next, after, object, hpath, hat, hobject, hnone⟩ := h
  cases before with
  | nil =>
    obtain ⟨rfl, rfl⟩ := List.cons.inj hpath
    obtain rfl := Option.some.inj hat
    exact ⟨hobject, fun value hvalue ↦ nomatch hnone.symm.trans hvalue⟩
  | cons first before =>
    obtain ⟨rfl, rfl⟩ := List.cons.inj hpath
    obtain ⟨child, hchild, hat⟩ := Option.bind_eq_some_iff.mp hat
    refine ⟨isObject_of_lookup hchild, fun value hvalue ↦ ?_⟩
    obtain rfl := Option.some.inj (hchild.symm.trans hvalue)
    exact ⟨before, next, after, object, rfl, hat, hobject, hnone⟩

/-- Where a document says nothing, nothing is found. -/
theorem at?_eq_none_of_spares (h : doc.Spares path) : doc.at? path = none := by
  induction path generalizing doc with
  | nil => exact absurd h not_spares_nil
  | cons key rest ih =>
    cases hvalue : lookup key doc.members with
    | none => rw [at?, hvalue, Option.bind_none]
    | some value => rw [at?_cons_of_lookup hvalue, ih (h.cons.2 value hvalue)]

theorem at?_merge_of_spares (hb : Canonical b) (h : b.Spares path) :
    (merge a b).at? path = a.at? path := by
  induction path generalizing a b with
  | nil => exact absurd h not_spares_nil
  | cons key rest ih =>
    obtain ⟨hobject, hspares⟩ := h.cons
    rw [at?, at?, lookup_merge hb hobject]
    cases hwritten : lookup key b.members with
    | none => rfl
    | some written =>
      have hrest := hspares written hwritten
      cases hexisting : lookup key a.members with
      | none => exact at?_eq_none_of_spares hrest
      | some existing => exact ih (hb.of_lookup hwritten) hrest

theorem at?_merge_of_not_isObject (hb : Canonical b) (hleaf : ¬ value.IsObject)
    (h : b.at? path = some value) : (merge a b).at? path = some value := by
  induction path generalizing a b with
  | nil =>
    obtain rfl := Option.some.inj h
    rw [merge_of_not_isObject hleaf, at?]
  | cons key rest ih =>
    obtain ⟨written, hwritten, hrest⟩ := Option.bind_eq_some_iff.mp h
    rw [at?, lookup_merge hb (isObject_of_lookup hwritten), hwritten]
    cases hexisting : lookup key a.members with
    | none => exact hrest
    | some existing => exact ih (hb.of_lookup hwritten) hrest

/-! ## Merging two documents -/

namespace Compatible

theorem eq_or_isObject (h : Compatible b c) : b = c ∨ b.IsObject ∧ c.IsObject := h [] b c rfl rfl

theorem of_lookup (h : Compatible b c) (hv : lookup key b.members = some v)
    (hw : lookup key c.members = some w) : Compatible v w :=
  fun path v' w' hv' hw' ↦
    h (key :: path) v' w' ((at?_cons_of_lookup hv).trans hv') ((at?_cons_of_lookup hw).trans hw')

/-- Objects are compatible if what both of them have under a key is. -/
theorem of_members (hb : b.IsObject) (hc : c.IsObject)
    (h : ∀ key v w, lookup key b.members = some v → lookup key c.members = some w →
      Compatible v w) : Compatible b c := by
  intro path v w hv hw
  cases path with
  | nil =>
    obtain rfl := Option.some.inj hv
    obtain rfl := Option.some.inj hw
    exact .inr ⟨hb, hc⟩
  | cons key rest =>
    obtain ⟨v', hv', hv⟩ := Option.bind_eq_some_iff.mp hv
    obtain ⟨w', hw', hw⟩ := Option.bind_eq_some_iff.mp hw
    exact h key v' w' hv' hw' rest v w hv hw

end Compatible

theorem merge_right_comm (ha : Canonical a) (hb : Canonical b) (hc : Canonical c)
    (hcompatible : Compatible b c) : merge (merge a b) c = merge (merge a c) b := by
  induction b using members_induction generalizing a c with
  | leaf b hleaf =>
    rcases hcompatible.eq_or_isObject with rfl | ⟨hobject, _⟩
    · rfl
    · exact absurd hobject hleaf
  | object b hobject ih =>
    rcases hcompatible.eq_or_isObject with rfl | ⟨_, hobject'⟩
    · rfl
    refine (canonical_merge (canonical_merge ha hb) hc).eq_of_lookup
      (canonical_merge (canonical_merge ha hc) hb) (isObject_merge hc hobject')
      (isObject_merge hb hobject) fun key ↦ ?_
    rw [lookup_merge hc hobject', lookup_merge hb hobject, lookup_merge hb hobject,
      lookup_merge hc hobject']
    cases hv : lookup key b.members with
    | none => rfl
    | some v =>
      cases hw : lookup key c.members with
      | none => rfl
      | some w =>
        have hbelow := hcompatible.of_lookup hv hw
        have hcomm : ∀ {a}, Canonical a → merge (merge a v) w = merge (merge a w) v :=
          fun ha ↦ ih key v hv ha (hb.of_lookup hv) (hc.of_lookup hw) hbelow
        refine congrArg some ?_
        cases hexisting : lookup key a.members with
        | some existing => exact hcomm (ha.of_lookup hexisting)
        | none =>
          -- nothing is there, which for objects is as good as an empty one
          rcases hbelow.eq_or_isObject with rfl | ⟨hv', hw'⟩
          · rfl
          have hempty := hcomm .empty
          rwa [merge_empty_left (hb.of_lookup hv) hv', merge_empty_left (hc.of_lookup hw) hw']
            at hempty

/-! ## Any two documents -/

/-- How merging a document into another one leaves what it need not change. -/
structure MergesConservatively (a b : Json) : Prop where
  /-- Maps are merged into maps. -/
  canonical : Canonical (merge a b)
  self : merge a a = a
  again : merge (merge a b) b = merge a b
  empty : a.IsObject → merge a (.obj []) = a
  /-- Where nothing is written, everything stays, and nothing else appears. -/
  kept : ∀ path, b.Spares path → (merge a b).at? path = a.at? path
  /-- What is written is found. -/
  written : ∀ path value, b.at? path = some value → ¬ value.IsObject →
    (merge a b).at? path = some value
  unordered : ∀ c, Canonical c → Compatible b c → merge (merge a b) c = merge (merge a c) b

theorem merge_is_conservative (ha : Canonical a) (hb : Canonical b) : MergesConservatively a b where
  canonical := canonical_merge ha hb
  self := merge_self ha
  again := merge_merge_self ha hb
  empty hobject := by
    rw [hobject]
    rfl
  kept _ h := at?_merge_of_spares hb h
  written _ _ h hleaf := at?_merge_of_not_isObject hb hleaf h
  unordered _ hc h := merge_right_comm ha hb hc h

/-- Two registers under one name. -/
def registersBefore : Json :=
  .obj [("x", .obj [("keep", .bool true), ("thresholdDac", .nat 1)])]

/-- A document of one register under the same name. -/
def registerAlone (register : String) (value : Json) : Json :=
  .obj [("x", .obj [(register, value)])]

theorem canonical_registerAlone (hleaf : ¬ value.IsObject) :
    Canonical (registerAlone key value) :=
  .singleton (.singleton (.of_not_isObject hleaf))

/-- Documents of different registers leave room for each other. -/
theorem compatible_registerAlone {other : String} (h : key ≠ other) :
    Compatible (registerAlone key v) (registerAlone other w) := by
  have hapart : Compatible (.obj [(key, v)]) (.obj [(other, w)]) := by
    refine .of_members rfl rfl fun found _ _ hv hw ↦ absurd ?_ h
    have hkey := congrArg Prod.fst (List.mem_singleton.mp (mem_of_lookup hv))
    have hother := congrArg Prod.fst (List.mem_singleton.mp (mem_of_lookup hw))
    exact hkey.symm.trans hother
  refine .of_members rfl rfl fun _ _ _ hv hw ↦ ?_
  have hv := congrArg Prod.snd (List.mem_singleton.mp (mem_of_lookup hv))
  have hw := congrArg Prod.snd (List.mem_singleton.mp (mem_of_lookup hw))
  dsimp only at hv hw
  rwa [hv, hw]

/-- One register is written over, and the other one keeps its value. A third one may come before
or after that. -/
theorem merge_is_conservative_register :
    Canonical registersBefore ∧ Canonical (registerAlone "thresholdDac" (.nat 2)) ∧
      MergesConservatively registersBefore (registerAlone "thresholdDac" (.nat 2)) ∧
      (registerAlone "thresholdDac" (.nat 2)).Spares ["x", "keep"] ∧
      merge registersBefore (registerAlone "thresholdDac" (.nat 2)) =
        .obj [("x", .obj [("keep", .bool true), ("thresholdDac", .nat 2)])] ∧
      Compatible (registerAlone "thresholdDac" (.nat 2)) (registerAlone "mode" (.str "fast")) := by
  have hbefore : Canonical registersBefore := by
    have hkeys : ["keep", "thresholdDac"].Pairwise (· < ·) := by decide
    refine .singleton (.flat hkeys fun member hmember ↦ ?_)
    simp only [List.mem_cons, List.not_mem_nil, or_false] at hmember
    rcases hmember with rfl | rfl <;> nofun
  have hafter : Canonical (registerAlone "thresholdDac" (.nat 2)) := canonical_registerAlone nofun
  refine ⟨hbefore, hafter, merge_is_conservative hbefore hafter, ?_, rfl,
    compatible_registerAlone (by decide)⟩
  exact ⟨["x"], "keep", [], _, rfl, rfl, rfl, rfl⟩

end Json

/-! ## Register documents -/

namespace Document

open Json

variable {R : Type}

theorem canonical_ofRegisters (registers : RegisterMap) : Canonical (ofRegisters registers) := by
  have hmembers : ofRegisters registers = .obj [
      ("channel_mask", .arr (registers.channelMask.map fun masked ↦ .nat masked.toNat)),
      ("channel_trim", .arr (registers.channelTrim.map .nat)),
      ("thresholdDac", .nat registers.thresholdDac)] := rfl
  have hkeys : ["channel_mask", "channel_trim", "thresholdDac"].Pairwise (· < ·) := by decide
  rw [hmembers]
  refine .flat hkeys fun member hmember ↦ ?_
  simp only [List.mem_cons, List.not_mem_nil, or_false] at hmember
  rcases hmember with rfl | rfl | rfl <;> nofun

theorem canonical_ofContext (context : Context R) : Canonical (ofContext context) :=
  .singleton (.singleton (canonical_ofRegisters _))

/-- The documents of devices are made of maps, so that all of this holds of them. -/
theorem canonical_ofContexts (contexts : List (Context R)) : Canonical (ofContexts contexts) := by
  have hmerged : ∀ doc, Canonical doc →
      Canonical (contexts.foldl (fun doc context ↦ doc.merge (ofContext context)) doc) := by
    induction contexts with
    | nil => exact fun doc h ↦ h
    | cons context rest ih =>
      exact fun doc h ↦ ih _ (canonical_merge h (canonical_ofContext context))
  exact hmerged _ .empty

end Document

end ThresholdTrim
