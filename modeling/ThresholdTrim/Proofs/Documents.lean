import Mathlib
import ThresholdTrim.Proofs.Json

/-!
# Documents of many devices

A document is made by merging, one device after the other, and the devices of a board share its
upper level. What it says in the end is a function of the list alone: under a board and a slot
stand the registers of the last context there (`Document.latest?`), and nothing stands anywhere
else. Each merge keeps that (`HoldsLatest.merge`). As slots tell indices apart, no device gets into
the place of another.

Members are kept in one order, so documents that say the same are equal. When no two contexts are
of one device, the order of the list cannot show.
-/

namespace ThresholdTrim

namespace Document

open Json

variable {R : Type}

/-! ## Registers of one device -/

/-- Registers are written over others as a whole: each of them is replaced. -/
theorem merge_ofRegisters (old new : RegisterMap) :
    (ofRegisters old).merge (ofRegisters new) = ofRegisters new := rfl

/-! ## What a document holds -/

/-- Whether a context is of the device in a slot of a board. -/
def isAt (name slot : String) (context : Context R) : Bool :=
  context.spec.key.board = name ∧ DeviceKey.slot context.spec.key.vmm = slot

/-- The last context of the device in a slot of a board. -/
def latest? (contexts : List (Context R)) (name slot : String) : Option (Context R) :=
  contexts.reverse.find? (isAt name slot)

variable {contexts : List (Context R)} {context : Context R} {name slot : String} {doc : Json}

theorem isAt_iff : isAt name slot context = true ↔
    context.spec.key.board = name ∧ DeviceKey.slot context.spec.key.vmm = slot :=
  decide_eq_true_iff

theorem latest?_append : latest? (contexts ++ [context]) name slot =
    if isAt name slot context then some context else latest? contexts name slot := by
  rw [latest?, List.reverse_append, List.reverse_singleton, List.singleton_append, List.find?_cons]
  cases isAt name slot context <;> rfl

theorem latest?_isSome_iff : (latest? contexts name slot).isSome = true ↔
    ∃ context ∈ contexts, isAt name slot context = true := by
  rw [latest?, List.find?_isSome]
  simp only [List.mem_reverse]

/-- A board with the registers of the last context in each of its slots, and no other slots. -/
structure HoldsBoard (contexts : List (Context R)) (name : String) (board : Json) : Prop where
  listed : ∃ context ∈ contexts, context.spec.key.board = name
  devices : ∃ devices, board = .obj devices ∧ Ascending devices ∧ ∀ slot,
    lookup slot devices = (latest? contexts name slot).map (ofRegisters ·.registers)

/-- A document with the boards of a list of contexts, and no other boards. -/
def HoldsLatest (contexts : List (Context R)) (doc : Json) : Prop :=
  ∃ boards, doc = .obj boards ∧ Ascending boards ∧
    (∀ name board, lookup name boards = some board → HoldsBoard contexts name board) ∧
    ∀ context ∈ contexts, ∃ board, lookup context.spec.key.board boards = some board

/-- A board the new context is not on is as it was. -/
theorem HoldsBoard.append {board : Json} (h : HoldsBoard contexts name board)
    (hother : context.spec.key.board ≠ name) : HoldsBoard (contexts ++ [context]) name board := by
  obtain ⟨⟨earlier, hmem, hboard⟩, devices, rfl, hascending, hslots⟩ := h
  refine ⟨⟨earlier, List.mem_append_left _ hmem, hboard⟩, devices, rfl, hascending, fun slot ↦ ?_⟩
  rw [hslots, latest?_append, if_neg fun hat ↦ hother (isAt_iff.mp hat).1]

/-- The registers of the new context are written over what its board held. -/
theorem HoldsBoard.overwrite {board? : Option Json}
    (h : ∀ board, board? = some board → HoldsBoard contexts context.spec.key.board board)
    (hnone : board? = none → ∀ earlier ∈ contexts,
      earlier.spec.key.board ≠ context.spec.key.board) :
    HoldsBoard (contexts ++ [context]) context.spec.key.board (Json.overwrite board?
      (.obj [(DeviceKey.slot context.spec.key.vmm, ofRegisters context.registers)])) := by
  refine ⟨⟨context, List.mem_append_right _ List.mem_cons_self, rfl⟩, ?_⟩
  -- in its slot the registers stand alone, and the other slots are as they were
  have hslots : ∀ {devices : List (String × Json)}, (∀ slot, lookup slot devices =
        (latest? contexts context.spec.key.board slot).map (ofRegisters ·.registers)) →
      ∀ slot, lookup slot (mergeMembers devices
          [(DeviceKey.slot context.spec.key.vmm, ofRegisters context.registers)]) =
        (latest? (contexts ++ [context]) context.spec.key.board slot).map
          (ofRegisters ·.registers) := by
    intro devices hdevices slot
    rw [lookup_mergeMembers (List.pairwise_singleton _ _), latest?_append, lookup, hdevices]
    by_cases hslot : DeviceKey.slot context.spec.key.vmm = slot
    · rw [if_pos hslot, if_pos (isAt_iff.mpr ⟨rfl, hslot⟩)]
      cases latest? contexts context.spec.key.board slot with
      | none => rfl
      | some earlier => exact congrArg some (merge_ofRegisters _ _)
    · rw [if_neg hslot, if_neg fun hat ↦ hslot (isAt_iff.mp hat).2]
      rfl
  cases board? with
  | none =>
    have hempty : ∀ slot, lookup slot [] =
        (latest? contexts context.spec.key.board slot).map (ofRegisters ·.registers) := by
      intro slot
      have hnothing : latest? contexts context.spec.key.board slot = none := by
        rw [← Option.not_isSome_iff_eq_none, latest?_isSome_iff]
        rintro ⟨earlier, hmem, hat⟩
        exact hnone rfl earlier hmem (isAt_iff.mp hat).1
      rw [hnothing]
      rfl
    exact ⟨_, rfl, List.pairwise_singleton _ _, hslots hempty⟩
  | some board =>
    obtain ⟨_, devices, rfl, hascending, hdevices⟩ := h board rfl
    rw [Json.overwrite, merge]
    exact ⟨_, rfl, ascending_mergeMembers hascending, hslots hdevices⟩

/-- Merging one more device keeps a document that of its contexts. -/
theorem HoldsLatest.merge (h : HoldsLatest contexts doc) (context : Context R) :
    HoldsLatest (contexts ++ [context]) (doc.merge (ofContext context)) := by
  obtain ⟨boards, rfl, hascending, hboards, hall⟩ := h
  rw [ofContext, Json.merge]
  refine ⟨_, rfl, ascending_mergeMembers hascending, fun name board hfound ↦ ?_,
    fun earlier hmem ↦ ?_⟩
  · rw [lookup_mergeMembers (List.pairwise_singleton _ _), lookup] at hfound
    by_cases hname : context.spec.key.board = name
    · subst hname
      rw [if_pos rfl] at hfound
      obtain rfl := Option.some.inj hfound
      refine HoldsBoard.overwrite (hboards _) fun hnone earlier hmem hsame ↦ ?_
      obtain ⟨board, hboard⟩ := hall earlier hmem
      rw [hsame, hnone] at hboard
      cases hboard
    · rw [if_neg hname] at hfound
      exact (hboards name board hfound).append hname
  · rw [lookup_mergeMembers (List.pairwise_singleton _ _), lookup]
    by_cases hname : context.spec.key.board = earlier.spec.key.board
    · rw [if_pos hname]
      exact ⟨_, rfl⟩
    · rw [if_neg hname]
      rcases List.mem_append.mp hmem with hmem | hmem
      · exact hall earlier hmem
      · obtain rfl := List.mem_singleton.mp hmem
        exact absurd rfl hname

end Document

end ThresholdTrim
