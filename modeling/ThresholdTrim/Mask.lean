/-!
# Channel masks

A channel is masked once and for all: the first reason stays, and no operation unmasks. The view
of a mask is `reason`; everything else is read off it.
-/

namespace ThresholdTrim

/-- Why a channel is out of use. -/
inductive MaskReason
  /-- No sensor behind the input. -/
  | unconnected
  /-- Sampling failed for good. -/
  | noData
  /-- Baseline far above the device median. -/
  | hot
  /-- The device as a whole could not be calibrated. -/
  | deviceFailed
  /-- Effective threshold stayed below the baseline at the best trim. -/
  | belowBaseline
  deriving DecidableEq

/-- For every channel of a device, the reason it was first masked. -/
structure ChannelMask where
  reasons : List (Option MaskReason)
  deriving DecidableEq

namespace ChannelMask

/-- All channels in use. -/
def new (channels : Nat) : ChannelMask := ⟨List.replicate channels none⟩

def reason (mask : ChannelMask) (channel : Nat) : Option MaskReason :=
  mask.reasons[channel]?.join

def isMasked (mask : ChannelMask) (channel : Nat) : Bool := (mask.reason channel).isSome

/-- Masks one channel; a channel beyond the device, or one already masked, changes nothing. -/
def mask (mask : ChannelMask) (channel : Nat) (reason : MaskReason) : ChannelMask :=
  ⟨mask.reasons.modify channel fun old ↦ old <|> some reason⟩

/-- Masks every channel still in use. -/
def maskAll (mask : ChannelMask) (reason : MaskReason) : ChannelMask :=
  ⟨mask.reasons.map fun old ↦ old <|> some reason⟩

def maskedCount (mask : ChannelMask) : Nat := mask.reasons.countP Option.isSome

/-- Channels in use, ascending. -/
def unmasked (mask : ChannelMask) : List Nat :=
  (List.range mask.reasons.length).filter fun channel ↦ !mask.isMasked channel

/-- One flag per channel, set when the channel is masked. -/
def flags (mask : ChannelMask) : List Bool := mask.reasons.map Option.isSome

/-! ## Operations through their view -/

@[simp] theorem reason_new (channels channel : Nat) : (new channels).reason channel = none := by
  simp only [reason, new, List.getElem?_replicate]
  split <;> rfl

theorem reason_mask (mask : ChannelMask) (channel other : Nat) (reason : MaskReason) :
    (mask.mask channel reason).reason other =
      if other = channel ∧ other < mask.reasons.length then mask.reason other <|> some reason
      else mask.reason other := by
  simp only [ChannelMask.mask, ChannelMask.reason, List.getElem?_modify]
  by_cases inside : other < mask.reasons.length
  · by_cases same : channel = other
    · simp [inside, same]
    · simp [inside, same, Ne.symm same]
  · simp [inside]

theorem reason_maskAll (mask : ChannelMask) (channel : Nat) (reason : MaskReason) :
    (mask.maskAll reason).reason channel =
      if channel < mask.reasons.length then mask.reason channel <|> some reason else none := by
  simp only [ChannelMask.maskAll, ChannelMask.reason, List.getElem?_map]
  by_cases inside : channel < mask.reasons.length
  · simp [inside]
  · simp [inside]

end ChannelMask

end ThresholdTrim
