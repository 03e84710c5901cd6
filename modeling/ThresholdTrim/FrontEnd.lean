import ThresholdTrim.Device
import ThresholdTrim.Error
import ThresholdTrim.Text

/-!
# Front-ends

Samples and register writes go through a front-end. A front-end is a machine: it answers a request
and moves to a next state, so that every behaviour of hardware, failures that come and go
included, is some front-end over some type of states.
-/

namespace ThresholdTrim

/-- Analog quantity a channel's monitor shows while it is sampled, with the registers that set
it. -/
inductive Setting
  /-- Resting voltage of the channel. -/
  | baseline
  /-- Comparator threshold as the channel sees it. -/
  | threshold (dac trim : Nat)
  deriving DecidableEq

namespace Setting

/-- Threshold register under the setting. -/
def dac : Setting → Nat
  | .baseline => 0
  | .threshold dac _ => dac

/-- Trim register under the setting. -/
def trim : Setting → Nat
  | .baseline => 0
  | .threshold _ trim => trim

end Setting

/-- A batch asked of a front-end. -/
structure Request where
  channel : ChannelKey
  setting : Setting
  count : Nat
  deriving DecidableEq

/-- Registers of a device after a calibration. -/
structure RegisterMap where
  thresholdDac : Nat
  channelTrim : List Nat
  channelMask : List Bool
  deriving DecidableEq

/-- What a front-end answers instead of samples. -/
inductive FrontEndError
  | timeout
  | noResponse (channel : Nat)
  | noSuchChannel (channel : Nat)
  | invalidModel (cause : String)
  /-- A failure a transport only words. -/
  | worded (text : String)
  deriving DecidableEq

namespace FrontEndError

def message : FrontEndError → String
  | .timeout => "front-end timeout"
  | .noResponse channel => "no response from channel " ++ toString channel
  | .noSuchChannel channel =>
    "channel " ++ toString channel ++ " does not exist on this device"
  | .invalidModel cause => "invalid simulation model: " ++ cause
  | .worded text => text

/-- Whether a text speaks of a timeout, in any case. No letter outside ASCII has one of the
letters of the word alone as its lower case, so ASCII case is enough. -/
def wordsTimeout (text : String) : Bool := Text.contains (Text.lowerAscii text) "timeout"

/-- What the stages make of a failure: a timeout, however it is worded, or whatever is reported. -/
def diagnosis : FrontEndError → HardwareFault
  | .timeout => .timeout
  | .worded text => if wordsTimeout text then .timeout else .reported text
  | fault => .reported fault.message

end FrontEndError

/-! ## Machines -/

/-- A front-end over states `σ`: its answer to a request, and to a register write. A batch may
hold fewer samples than asked for. -/
structure FrontEnd (σ : Type) where
  acquire : Request → σ → Except FrontEndError (List Nat) × σ
  write : DeviceKey → RegisterMap → σ → Except FrontEndError Unit × σ

end ThresholdTrim
