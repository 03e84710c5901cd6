import ThresholdTrim.Device
import ThresholdTrim.Text

/-!
# Channels without a sensor

Boards at the edge of a wedge have only part of their inputs wired. The others are never sampled
and always end up masked.
-/

namespace ThresholdTrim

/-- Every device whose board name contains `pattern`, at index `vmm`, has the channels
`first .. last` unconnected. -/
structure UnconnectedRule where
  pattern : String
  vmm : UInt8
  first : Nat
  last : Nat
  deriving DecidableEq

def UnconnectedRule.covers (rule : UnconnectedRule) (key : ChannelKey) : Bool :=
  key.device.vmm == rule.vmm
    && decide (rule.first ≤ key.channel ∧ key.channel ≤ rule.last)
    && Text.contains key.device.board rule.pattern

/-- Exclusions, any one of which suffices. -/
structure Geometry where
  rules : List UnconnectedRule

namespace Geometry

/-- Boards that are known to be partly unconnected. -/
def builtin : Geometry where
  rules := [
    -- innermost strip boards: the first strips fall outside the active area
    ⟨"MMFE8_L1P1_HOL", 0, 0, 7⟩,
    ⟨"MMFE8_L1P1_HOR", 0, 0, 7⟩,
    ⟨"MMFE8_L4P1_HOL", 0, 0, 7⟩,
    ⟨"MMFE8_L4P1_HOR", 0, 0, 7⟩,
    -- outermost strip boards: the last device is partly populated
    ⟨"MMFE8_L1P8_HOL", 7, 48, 63⟩,
    ⟨"MMFE8_L1P8_HOR", 7, 48, 63⟩,
    ⟨"SFEB8_Q3", 7, 40, 63⟩,
    -- small pad boards leave the top device half empty
    ⟨"PFEB_Q1", 2, 32, 63⟩]

/-- The table with further rules. -/
def extend (geometry : Geometry) (rules : List UnconnectedRule) : Geometry :=
  ⟨geometry.rules ++ rules⟩

def isUnconnected (geometry : Geometry) (key : ChannelKey) : Bool :=
  geometry.rules.any (·.covers key)

/-- One flag per channel of a device. -/
def unconnectedChannels (geometry : Geometry) (device : DeviceKey) (channels : Nat) : List Bool :=
  (List.range channels).map fun channel ↦ geometry.isUnconnected (device.channel channel)

end Geometry

end ThresholdTrim
