import ThresholdTrim.Context
import ThresholdTrim.Json

/-!
# Register documents

The registers of a device as a document: board name, then device on the board, then registers.
Documents of several devices are merged into one. Objects merge member by member; anything else
takes the place of what was there.
-/

namespace ThresholdTrim

namespace Json

mutual

/-- `into` with everything `doc` says written over it. -/
def merge (into doc : Json) : Json :=
  match doc with
  | .obj source =>
    match into with
    | .obj members => .obj (mergeMembers members source)
    | _ => .obj source
  | leaf => leaf

/-- The members of an object with those of a second one written over them, one by one. -/
def mergeMembers (members : List (String × Json)) :
    List (String × Json) → List (String × Json)
  | [] => members
  | (key, value) :: rest =>
    let merged := match lookup key members with
      | some existing => merge existing value
      | none => value
    mergeMembers (insert key merged members) rest

end

end Json

namespace Document

/-- Registers as they are stored: flags as 0 and 1. -/
def ofRegisters (registers : RegisterMap) : Json :=
  .ofMembers [
    ("thresholdDac", .nat registers.thresholdDac),
    ("channel_trim", .arr (registers.channelTrim.map .nat)),
    ("channel_mask", .arr (registers.channelMask.map fun masked ↦ .nat masked.toNat))]

variable {R : Type} [Scalar R]

/-- Document of one device. -/
def ofContext (context : Context R) : Json :=
  let key := context.spec.key
  .obj [(key.board, .obj [(DeviceKey.slot key.vmm, ofRegisters context.registers)])]

/-- One document for a list of devices. -/
def ofContexts (contexts : List (Context R)) : Json :=
  contexts.foldl (fun doc context ↦ doc.merge (ofContext context)) (.obj [])

end Document

end ThresholdTrim
