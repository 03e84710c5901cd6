import Mathlib.Logic.ExistsUnique
import Mathlib.Logic.Function.Basic
import ThresholdTrim.FrontEnd.Simulated

/-!
# Seeds tell devices apart

A byte is folded into a word by a sum of bits and a product with an odd number, and both can be
undone modulo 2 to the 64th. So folding loses nothing of the word, whatever the byte is, and nothing
of the byte, whatever the word is. Words that differ once stay different through all bytes that
follow (`foldl_step_injective`), and two devices whose bytes differ in one place only have different
seeds.
-/

namespace ThresholdTrim

namespace Seed

variable {key : DeviceKey} {base : UInt64} {vmm : UInt8} {board board' : String}

/-! ## Folding bytes -/

/-- What undoes the multiplier, in wrapping arithmetic. -/
def inverse : UInt64 := 0xce965057aff6957b

theorem multiplier_mul_inverse : multiplier * inverse = 1 := by decide

theorem mul_multiplier_injective : Function.Injective (· * multiplier) := by
  intro x y h
  calc
    x = x * (multiplier * inverse) := by rw [multiplier_mul_inverse, UInt64.mul_one]
    _ = y * (multiplier * inverse) := by
      rw [← UInt64.mul_assoc, ← UInt64.mul_assoc]
      exact congrArg (· * inverse) h
    _ = y := by rw [multiplier_mul_inverse, UInt64.mul_one]

theorem step_injective_word (byte : UInt8) : Function.Injective (step · byte) := by
  intro x y h
  exact (UInt64.xor_left_inj _).mp (mul_multiplier_injective h)

theorem step_injective_byte (word : UInt64) : Function.Injective (step word) := by
  intro x y h
  have hbyte := (UInt64.xor_right_inj _).mp (mul_multiplier_injective h)
  exact UInt8.toUInt64_inj.mp hbyte

/-- Words that differ stay different, whatever bytes follow. -/
theorem foldl_step_injective (bytes : List UInt8) : Function.Injective (bytes.foldl step ·) := by
  induction bytes with
  | nil => exact fun _ _ h ↦ h
  | cons byte rest ih => exact ih.comp (step_injective_word byte)

/-- Texts of bytes that differ in one place have different words. -/
theorem hash_ne {before after : List UInt8} {x y : UInt8} (h : x ≠ y) :
    hash (before ++ x :: after) ≠ hash (before ++ y :: after) := by
  rw [hash, hash, List.foldl_append, List.foldl_append, List.foldl_cons, List.foldl_cons]
  exact fun hsame ↦ h (step_injective_byte _ (foldl_step_injective after hsame))

/-! ## Bytes of names -/

theorem toList_loop (bytes : ByteArray) (i : Nat) (read : List UInt8) :
    ByteArray.toList.loop bytes i read = read.reverse ++ bytes.data.toList.drop i := by
  fun_induction ByteArray.toList.loop bytes i read with
  | case1 i read hi ih =>
    have hget : bytes.get! i = bytes.data.toList[i] := by
      rw [Array.getElem_toList, ByteArray.get!, getElem!_pos]
    rw [ih, List.reverse_cons, List.append_assoc, hget, List.singleton_append,
      ← List.drop_eq_getElem_cons]
  | case2 i read hi =>
    rw [List.drop_eq_nil_of_le (Nat.le_of_not_lt hi), List.append_nil]

theorem toList_eq_data_toList (bytes : ByteArray) : bytes.toList = bytes.data.toList := by
  rw [ByteArray.toList, toList_loop]
  rfl

theorem length_toUTF8 (text : String) : text.toUTF8.toList.length = text.utf8ByteSize := by
  rw [toList_eq_data_toList]
  rfl

/-- Lists of one length that differ in one place only agree before and behind it. -/
theorem exists_append_of_existsUnique {α : Type} {xs ys : List α} (hlength : xs.length = ys.length)
    (h : ∃! i : Nat, xs[i]? ≠ ys[i]?) : ∃ before x y after,
      x ≠ y ∧ xs = before ++ x :: after ∧ ys = before ++ y :: after := by
  obtain ⟨i, hne, hunique⟩ := h
  have hsame : ∀ j, j ≠ i → xs[j]? = ys[j]? :=
    fun j hj ↦ not_not.mp fun hdiffers ↦ hj (hunique j hdiffers)
  have hinside : i < xs.length := by
    refine Nat.lt_of_not_le fun hbeyond ↦ hne ?_
    rw [List.getElem?_eq_none hbeyond, List.getElem?_eq_none (hlength ▸ hbeyond)]
  have hinside' : i < ys.length := hlength ▸ hinside
  have hbefore : xs.take i = ys.take i := by
    refine List.ext_getElem? fun j ↦ ?_
    rw [List.getElem?_take, List.getElem?_take]
    split
    · exact hsame j (by omega)
    · rfl
  have hafter : xs.drop (i + 1) = ys.drop (i + 1) := by
    refine List.ext_getElem? fun j ↦ ?_
    rw [List.getElem?_drop, List.getElem?_drop, hsame _ (by omega)]
  refine ⟨xs.take i, xs[i], ys[i], xs.drop (i + 1), ?_, ?_, ?_⟩
  · intro heq
    rw [List.getElem?_eq_getElem hinside, List.getElem?_eq_getElem hinside', heq] at hne
    exact hne rfl
  · rw [← List.drop_eq_getElem_cons hinside, List.take_append_drop]
  · rw [hbefore, hafter, ← List.drop_eq_getElem_cons hinside', List.take_append_drop]

theorem ofDevice_injective_base (key : DeviceKey) : Function.Injective (ofDevice · key) :=
  fun _ _ h ↦ (UInt64.xor_right_inj _).mp h

theorem ofDevice_ne_of_hash_ne {key key' : DeviceKey}
    (h : hash (deviceBytes key) ≠ hash (deviceBytes key')) :
    ofDevice base key ≠ ofDevice base key' :=
  fun hsame ↦ h ((UInt64.xor_left_inj _).mp hsame)

theorem ofDevice_injective_vmm (base : UInt64) (board : String) :
    Function.Injective fun vmm ↦ ofDevice base ⟨board, vmm⟩ := by
  intro vmm vmm' h
  by_contra hne
  have hhash : hash (deviceBytes ⟨board, vmm⟩) ≠ hash (deviceBytes ⟨board, vmm'⟩) := hash_ne hne
  exact ofDevice_ne_of_hash_ne hhash h

theorem ofDevice_ne_of_board (hlength : board.utf8ByteSize = board'.utf8ByteSize)
    (h : ∃! i : Nat, board.toUTF8.toList[i]? ≠ board'.toUTF8.toList[i]?) :
    ofDevice base ⟨board, vmm⟩ ≠ ofDevice base ⟨board', vmm⟩ := by
  have hbytes : board.toUTF8.toList.length = board'.toUTF8.toList.length := by
    rw [length_toUTF8, length_toUTF8, hlength]
  obtain ⟨before, x, y, after, hne, hboard, hboard'⟩ := exists_append_of_existsUnique hbytes h
  refine ofDevice_ne_of_hash_ne ?_
  rw [deviceBytes, deviceBytes, hboard, hboard', List.append_assoc, List.append_assoc,
    List.cons_append, List.cons_append]
  exact hash_ne hne

end Seed

/-- The model of a device is seeded with the seed of the device. -/
theorem SimulatedModel.seed_of_forDevice [Generator] {params : SimulationParams} {key : DeviceKey}
    {model : SimulatedModel} (h : forDevice params key = .ok model) :
    model.params.seed = Seed.ofDevice params.seed key := by
  rw [forDevice, new] at h
  split at h
  · cases h
  · obtain rfl := Except.ok.inj h
    rfl

namespace Seed

/-- Different seeds for devices that differ in their index, for runs that do, and for boards whose
names differ in one byte only. The models of devices are seeded with them. -/
theorem seeds_tell_devices_apart :
    (∀ base board, Function.Injective fun vmm ↦ ofDevice base ⟨board, vmm⟩) ∧
    (∀ key, Function.Injective (ofDevice · key)) ∧
    (∀ base vmm (board board' : String), board.utf8ByteSize = board'.utf8ByteSize →
      (∃! i : Nat, board.toUTF8.toList[i]? ≠ board'.toUTF8.toList[i]?) →
        ofDevice base ⟨board, vmm⟩ ≠ ofDevice base ⟨board', vmm⟩) ∧
    ∀ [Generator] params key model, SimulatedModel.forDevice params key = .ok model →
      model.params.seed = ofDevice params.seed key :=
  ⟨ofDevice_injective_vmm, ofDevice_injective_base, fun _ _ _ _ ↦ ofDevice_ne_of_board,
    fun _ _ _ ↦ SimulatedModel.seed_of_forDevice⟩

/-- Two letters with an accent are told apart by the last of their two bytes. -/
theorem seeds_tell_devices_apart_accents :
    "é".utf8ByteSize = "è".utf8ByteSize ∧
      (∃! i : Nat, "é".toUTF8.toList[i]? ≠ "è".toUTF8.toList[i]?) ∧
      ofDevice 1 ⟨"é", 0⟩ ≠ ofDevice 1 ⟨"è", 0⟩ ∧
      ∀ [Generator], ∃ model,
        SimulatedModel.forDevice { seed := 1, channels := 1 } ⟨"é", 0⟩ = .ok model ∧
          model.params.seed = ofDevice 1 ⟨"é", 0⟩ := by
  have hone : ∃! i : Nat, "é".toUTF8.toList[i]? ≠ "è".toUTF8.toList[i]? := by
    have hacute : "é".toUTF8.toList = [0xC3, 0xA9] := by
      rw [toList_eq_data_toList]
      decide
    have hgrave : "è".toUTF8.toList = [0xC3, 0xA8] := by
      rw [toList_eq_data_toList]
      decide
    rw [hacute, hgrave]
    refine ⟨1, by decide, fun i hi ↦ ?_⟩
    match i with
    | 0 => exact absurd rfl hi
    | 1 => rfl
    | _ + 2 => exact absurd rfl hi
  refine ⟨by decide, hone, seeds_tell_devices_apart.2.2.1 1 0 "é" "è" (by decide) hone, ?_⟩
  intro _
  exact ⟨_, rfl, seeds_tell_devices_apart.2.2.2 { seed := 1, channels := 1 } ⟨"é", 0⟩ _ rfl⟩

end Seed

end ThresholdTrim
