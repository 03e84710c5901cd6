import ThresholdTrim.Proofs.Journal

/-!
# Masks through any operations

A mask is written channel by channel and as a whole, in any order, and a channel beyond the device
may be named. What one operation does to a reason is one rule for both kinds (`reason_apply`): it
gives its own reason to a channel that it covers and that has none. By induction over the
operations, a channel has the reason of the first one that covers it. The flags, the channels in use
and the counts are all read off the reasons, so they agree with each other at any time.
-/

namespace ThresholdTrim.ChannelMask

/-- What is done to a mask: one channel is masked, or all that are in use. -/
inductive Operation
  | mask (channel : Nat) (reason : MaskReason)
  | maskAll (reason : MaskReason)

namespace Operation

/-- Whether an operation is about a channel. -/
def covers (channel : Nat) : Operation → Bool
  | .mask other _ => other == channel
  | .maskAll _ => true

def reason : Operation → MaskReason
  | .mask _ reason => reason
  | .maskAll reason => reason

end Operation

def apply (mask : ChannelMask) : Operation → ChannelMask
  | .mask channel reason => mask.mask channel reason
  | .maskAll reason => mask.maskAll reason

def run (mask : ChannelMask) (operations : List Operation) : ChannelMask :=
  operations.foldl apply mask

variable {mask : ChannelMask} {channel channels : Nat} {first : MaskReason}
  {operation : Operation} {operations : List Operation}

/-! ## One operation -/

theorem reason_of_le (h : mask.reasons.length ≤ channel) : mask.reason channel = none := by
  rw [reason, List.getElem?_eq_none h]
  rfl

@[simp] theorem length_reasons_apply :
    (mask.apply operation).reasons.length = mask.reasons.length := by
  cases operation <;> simp [apply]

/-- An operation gives its reason to the channels that it covers and that have none. -/
theorem reason_apply (hinside : channel < mask.reasons.length) :
    (mask.apply operation).reason channel =
      if operation.covers channel then mask.reason channel <|> some operation.reason
      else mask.reason channel := by
  cases operation with
  | mask other reason =>
    rw [apply, reason_mask]
    by_cases hsame : channel = other
    · simp [Operation.covers, Operation.reason, hsame, hsame ▸ hinside]
    · simp [Operation.covers, hsame, Ne.symm hsame]
  | maskAll reason =>
    rw [apply, reason_maskAll, if_pos hinside]
    rfl

theorem reason_apply_of_some (h : mask.reason channel = some first) :
    (mask.apply operation).reason channel = some first := by
  cases operation with
  | mask => exact reason_mask_of_some h
  | maskAll => exact reason_maskAll_of_some h

/-! ## Any operations -/

@[simp] theorem length_reasons_run :
    (mask.run operations).reasons.length = mask.reasons.length := by
  induction operations generalizing mask with
  | nil => rfl
  | cons operation rest ih => exact ih.trans length_reasons_apply

/-- A channel without a reason gets that of the first operation that covers it. -/
theorem reason_run (hinside : channel < mask.reasons.length) :
    (mask.run operations).reason channel =
      (mask.reason channel <|> (operations.find? (·.covers channel)).map Operation.reason) := by
  induction operations generalizing mask with
  | nil => simp [run]
  | cons operation rest ih =>
    have hinside' : channel < (mask.apply operation).reasons.length := by simpa using hinside
    rw [run, List.foldl_cons, ← run, ih hinside', reason_apply hinside, List.find?_cons]
    cases operation.covers channel with
    | false => rfl
    | true => cases mask.reason channel <;> rfl

/-! ## What is read off a mask -/

theorem flags_eq : mask.flags = (List.range mask.reasons.length).map mask.isMasked := by
  refine List.ext_getElem? fun channel ↦ ?_
  rw [flags, List.getElem?_map, List.getElem?_map]
  by_cases hinside : channel < mask.reasons.length
  · simp [hinside, isMasked, reason]
  · simp [hinside]

theorem getElem?_flags (hinside : channel < mask.reasons.length) :
    mask.flags[channel]? = some (mask.isMasked channel) := by
  rw [flags_eq, List.getElem?_map, List.getElem?_range hinside, Option.map_some]

theorem pairwise_unmasked : mask.unmasked.Pairwise (· < ·) :=
  List.pairwise_lt_range.filter _

theorem mem_unmasked_iff_flags : channel ∈ mask.unmasked ↔
    channel < mask.reasons.length ∧ mask.flags[channel]? = some false := by
  rw [mem_unmasked_iff]
  refine and_congr_right fun hinside ↦ ?_
  rw [getElem?_flags hinside, Option.some.injEq]

/-- Each channel is masked or in use. -/
theorem maskedCount_add_length_unmasked :
    mask.maskedCount + mask.unmasked.length = mask.reasons.length := by
  have hmasked : mask.maskedCount = (List.range mask.reasons.length).countP mask.isMasked := by
    have hcount := congrArg (List.countP id) (@flags_eq mask)
    rwa [flags, List.countP_map, List.countP_map] at hcount
  have hinUse : mask.unmasked.length =
      (List.range mask.reasons.length).countP fun channel ↦ !mask.isMasked channel := by
    rw [unmasked, List.countP_eq_length_filter]
  have hall : ∀ xs : List Nat, xs.countP mask.isMasked +
      (xs.countP fun channel ↦ !mask.isMasked channel) = xs.length := by
    intro xs
    simpa using (List.length_eq_countP_add_countP mask.isMasked).symm
  rw [hmasked, hinUse, hall, List.length_range]

/-! ## Any history -/

/-- A mask tells of each channel the first that was done to it. -/
structure TellsFirst (channels : Nat) (operations : List Operation) (mask : ChannelMask) :
    Prop where
  /-- The reason of a channel is that of the first operation that covers it. -/
  reason : ∀ channel < channels, mask.reason channel =
    (operations.find? (·.covers channel)).map Operation.reason
  beyond : ∀ channel, channels ≤ channel → mask.reason channel = none
  length_flags : mask.flags.length = channels
  flags : ∀ channel < channels, mask.flags[channel]? = some (mask.isMasked channel)
  ascending : mask.unmasked.Pairwise (· < ·)
  mem_unmasked : ∀ channel,
    channel ∈ mask.unmasked ↔ channel < channels ∧ mask.flags[channel]? = some false
  count : mask.maskedCount + mask.unmasked.length = channels
  /-- Whatever comes next, a masked channel stays masked, for the same reason. -/
  stays : ∀ operation channel first, mask.reason channel = some first →
    (mask.apply operation).reason channel = some first ∧
      (mask.apply operation).isMasked channel = true

/-- Reasons are given once, by whatever comes first. -/
theorem masks_tell_first_operation (channels : Nat) (operations : List Operation) :
    TellsFirst channels operations ((new channels).run operations) := by
  have hlength : ((new channels).run operations).reasons.length = channels := by
    rw [length_reasons_run, new, List.length_replicate]
  refine ⟨fun channel hinside ↦ ?_, fun channel hbeyond ↦ ?_, ?_, fun channel hinside ↦ ?_,
    pairwise_unmasked, fun channel ↦ ?_, ?_, fun operation channel first h ↦ ?_⟩
  · have hstart : channel < (new channels).reasons.length := by simpa [new] using hinside
    rw [reason_run hstart, reason_new]
    rfl
  · exact reason_of_le (by omega)
  · rw [flags, List.length_map, hlength]
  · exact getElem?_flags (by omega)
  · rw [mem_unmasked_iff_flags, hlength]
  · rw [maskedCount_add_length_unmasked, hlength]
  · have hstays : (apply _ operation).reason channel = some first := reason_apply_of_some h
    exact ⟨hstays, by rw [isMasked, hstays, Option.isSome_some]⟩

example : ((new 3).run [.mask 1 .unconnected, .mask 9 .hot, .mask 1 .hot,
    .maskAll .deviceFailed]).reasons =
      [some .deviceFailed, some .unconnected, some .deviceFailed] := rfl

end ThresholdTrim.ChannelMask
