import ThresholdTrim.Scalar

/-!
# Devices

A front-end board carries several devices, told apart by a one-byte index. Keys are ordered by
board name, then index, then channel; names compare by code point, which is the order of their
UTF-8 bytes. The flavor of a board decides how converter counts relate to millivolts at the channel
input, and whether its channels have trimmers.
-/

namespace ThresholdTrim

/-- One multi-channel device on a front-end board. -/
structure DeviceKey where
  board : String
  vmm : UInt8
  deriving DecidableEq

/-- One analog input of a device. -/
structure ChannelKey where
  device : DeviceKey
  channel : Nat
  deriving DecidableEq

namespace DeviceKey

/-- Name of the device on its board, as the register document spells it. -/
def slot (vmm : UInt8) : String := "vmm" ++ toString vmm.toNat

def text (key : DeviceKey) : String := key.board ++ "/" ++ slot key.vmm

def channel (key : DeviceKey) (channel : Nat) : ChannelKey := ⟨key, channel⟩

def compare (a b : DeviceKey) : Ordering :=
  (Ord.compare a.board b.board).then (Ord.compare a.vmm b.vmm)

def le (a b : DeviceKey) : Bool := (compare a b).isLE

end DeviceKey

namespace ChannelKey

def text (key : ChannelKey) : String := key.device.text ++ "/ch" ++ toString key.channel

def compare (a b : ChannelKey) : Ordering :=
  (a.device.compare b.device).then (Ord.compare a.channel b.channel)

def le (a b : ChannelKey) : Bool := (compare a b).isLE

end ChannelKey

/-! ## Flavors -/

inductive Flavor
  /-- Strip board, direct converter input, trimmers. -/
  | mmfe8
  /-- Strip board behind an input divider of 1.5, trimmers. -/
  | sfeb
  /-- Pad board behind an input divider of 1.5, no trimmers. -/
  | pfeb
  deriving DecidableEq

namespace Flavor

open Scalar

variable {R : Type} [Scalar R]

def hasTrimmers : Flavor → Bool
  | .pfeb => false
  | _ => true

/-- Voltage at the channel over voltage at the converter. -/
def inputScale : Flavor → R
  | .mmfe8 => ofCount 1
  | .sfeb | .pfeb => fraction 3 2

/-- Millivolts at the converter input per count: the 12-bit range spans one volt. -/
def millivoltsPerCount : R := fraction 1000 4095

/-- Millivolts at the channel input of a level in counts. -/
def toMillivolts (flavor : Flavor) (counts : R) : R :=
  counts * millivoltsPerCount * flavor.inputScale

/-- Level in whole counts of a voltage at the channel input. -/
def toCounts (flavor : Flavor) (millivolts : R) : R :=
  round (millivolts / (millivoltsPerCount * flavor.inputScale))

end Flavor

/-! ## Descriptions -/

/-- Side of the detector a board is mounted on. -/
inductive Side
  | a
  | c
  deriving DecidableEq

def Side.text : Side → String
  | .a => "A"
  | .c => "C"

structure DeviceSpec where
  key : DeviceKey
  side : Side
  sector : Nat
  flavor : Flavor
  channels : Nat
  deriving DecidableEq

end ThresholdTrim
