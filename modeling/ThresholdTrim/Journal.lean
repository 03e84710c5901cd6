import ThresholdTrim.Mask
import ThresholdTrim.FrontEnd

/-!
# The journal of a run

What a calibration does to its surroundings is a sequence: batches asked for and what came back,
register writes, pauses, and the notices it gives. Channels leave use between readings, so masking
is entered too; statements about which channels were still in use at the time of a reading are then
statements about one list.
-/

namespace ThresholdTrim

/-- What a run has to say, at the level of a warning or above. -/
inductive Notice
  | partialBatch
  | givingUpOnChannel
  | noBaseline
  | hotChannel
  | deadChannel
  | suspectDevice
  | degradedDevice
  | noisyDevice
  | guessPointSkipped
  | refitting
  | candidateRejected
  | noMidTrim
  | raisingForMargin
  | marginStillMissed
  | regionSearchFailed
  | noThresholdAtTrim
  | belowBaseline
  | manyUnusable
  | writeBackFailed
  | deviceMasked
  | setupFailed
  deriving DecidableEq

namespace Notice

def message : Notice → String
  | .partialBatch => "partial batch"
  | .givingUpOnChannel => "giving up on channel"
  | .noBaseline => "no baseline"
  | .hotChannel => "hot channel masked"
  | .deadChannel => "dead-suspect channel"
  | .suspectDevice => "most channels are hot or dead, treat this device as suspect"
  | .degradedDevice => "many hot or dead channels"
  | .noisyDevice => "most channels are noisy, baseline sampling may be invalid"
  | .guessPointSkipped => "guess point skipped"
  | .refitting => "refitting threshold response"
  | .candidateRejected => "threshold candidate rejected"
  | .noMidTrim => "no mid-trim threshold"
  | .raisingForMargin => "mid-trim threshold below margin, raising DAC"
  | .marginStillMissed => "mid-trim threshold still below margin"
  | .regionSearchFailed => "trim region search failed"
  | .noThresholdAtTrim => "no threshold at chosen trim"
  | .belowBaseline => "threshold below baseline at best trim, channel masked"
  | .manyUnusable => "many channels have unusable trims"
  | .writeBackFailed => "register write-back failed"
  | .deviceMasked => "device masked"
  | .setupFailed => "cannot set up device"

/-- Whether the notice is an error rather than a warning. -/
def isError : Notice → Bool
  | .setupFailed => true
  | _ => false

def text (notice : Notice) : String :=
  (if notice.isError then "ERROR " else "WARN ") ++ notice.message

end Notice

inductive Entry
  | reading (request : Request) (answer : Except FrontEndError (List Nat))
  | write (device : DeviceKey) (registers : RegisterMap) (answer : Except FrontEndError Unit)
  | pause
  | masked (channel : Nat) (reason : MaskReason)
  | notice (notice : Notice)

/-- Entries in the order they were made. -/
abbrev Journal := List Entry

namespace Journal

/-- The batches asked for, in order. -/
def requests (journal : Journal) : List Request :=
  journal.filterMap fun
    | .reading request _ => some request
    | _ => none

def notices (journal : Journal) : List Notice :=
  journal.filterMap fun
    | .notice notice => some notice
    | _ => none

/-- The register sets pushed, in order, whether or not the front-end took them. -/
def writes (journal : Journal) : List (DeviceKey × RegisterMap) :=
  journal.filterMap fun
    | .write device registers _ => some (device, registers)
    | _ => none

def maskings (journal : Journal) : List (Nat × MaskReason) :=
  journal.filterMap fun
    | .masked channel reason => some (channel, reason)
    | _ => none

end Journal

end ThresholdTrim
