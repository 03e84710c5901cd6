import ThresholdTrim.Context
import ThresholdTrim.Decimal

/-!
# The row log

Every channel of every device has a row, measured or not. Quantities that were never measured are
zero, except for the spread of a baseline, which is negative then. Levels are in millivolts at the
channel input.
-/

namespace ThresholdTrim

open Scalar

/-- A value in a row. -/
inductive Cell (R : Type)
  | text (s : String)
  | count (n : Nat)
  | quantity (x : R)

/-- One row; the order of the fields is the order of the columns. -/
structure ChannelRow (R : Type) where
  side : Side
  sector : Nat
  board : String
  vmm : UInt8
  channel : Nat
  baselineMv : R
  baselineRmsMv : R
  midEffMv : R
  trimSlopeMv : R
  deviceBaselineMv : R
  deviceBaselineRmsMv : R
  deviceMidEffMv : R
  deviceEffMv : R
  thresholdDac : Nat
  bestTrim : Nat
  trimmedMv : R
  trimmedEffMv : R
  responseSlopeMv : R
  responseOffsetMv : R
  masked : Bool

namespace ChannelRow

variable {R : Type} [Scalar R]

/-- Row of one channel. -/
def ofContext (context : Context R) (channel : Nat) : ChannelRow R :=
  let mv (x : R) : R := context.spec.flavor.toMillivolts x
  let orZero {α : Type} (value : Option α) (f : α → R) : R :=
    match value with
    | some a => f a
    | none => ofCount 0
  let b := context.baseline channel
  let masked := context.mask.isMasked channel
  let trim := context.trim channel
  let usedTrim := if masked then none else trim
  let midEff := context.mid.bind fun mid ↦ mid.channelEff[channel]?.join
  { side := context.spec.side
    sector := context.spec.sector
    board := context.spec.key.board
    vmm := context.spec.key.vmm
    channel
    baselineMv := mv b.median
    baselineRmsMv := if b.isMeasured then mv b.rms else b.rms
    midEffMv := mv (midEff.getD (ofCount 0))
    trimSlopeMv := orZero trim fun t ↦ mv t.slope
    deviceBaselineMv := orZero context.deviceBaseline fun d ↦ mv d.median
    deviceBaselineRmsMv := orZero context.deviceBaseline fun d ↦ mv d.rms
    deviceMidEffMv := orZero context.mid fun mid ↦ mv mid.deviceEff
    deviceEffMv := orZero (context.threshold.bind fun t ↦ context.deviceBaseline.map (t, ·))
      fun (t, d) ↦ mv (t.realized - d.median)
    thresholdDac := context.thresholdDac
    bestTrim := context.channelTrim channel
    trimmedMv := orZero usedTrim fun t ↦ mv t.median
    trimmedEffMv := orZero usedTrim fun t ↦ mv t.eff
    responseSlopeMv := orZero context.threshold fun t ↦ mv t.slope
    responseOffsetMv := orZero context.threshold fun t ↦ mv t.intercept
    masked }

/-- Rows of all channels of a device, in channel order. -/
def all (context : Context R) : List (ChannelRow R) :=
  (List.range context.spec.channels).map (ofContext context)

/-- Column names and values, in column order. -/
def cells (row : ChannelRow R) : List (String × Cell R) := [
  ("side", .text row.side.text),
  ("sector", .count row.sector),
  ("device", .text row.board),
  ("vmm", .count row.vmm.toNat),
  ("channel", .count row.channel),
  ("channel_baseline_mv", .quantity row.baselineMv),
  ("channel_baseline_rms_mv", .quantity row.baselineRmsMv),
  ("channel_mid_eff_thresh_mv", .quantity row.midEffMv),
  ("channel_eff_thresh_slope", .quantity row.trimSlopeMv),
  ("device_baseline_mv", .quantity row.deviceBaselineMv),
  ("device_baseline_rms_mv", .quantity row.deviceBaselineRmsMv),
  ("device_mid_trim_median_mv", .quantity row.deviceMidEffMv),
  ("device_eff_thresh_mv", .quantity row.deviceEffMv),
  ("threshold_dac", .count row.thresholdDac),
  ("best_trim", .count row.bestTrim),
  ("trimmed_threshold_mv", .quantity row.trimmedMv),
  ("eff_thresh_with_best_trim_mv", .quantity row.trimmedEffMv),
  ("threshold_dac_slope", .quantity row.responseSlopeMv),
  ("threshold_dac_offset", .quantity row.responseOffsetMv),
  ("masked", .count row.masked.toNat)]

end ChannelRow

/-! ## Text -/

namespace RowLog

/-- A field that holds a tab, a quote or a line end stands in quotes, with its quotes doubled. -/
def field (s : String) : String :=
  if s.toList.any fun c ↦ c = '\t' ∨ c = '"' ∨ c = '\n' ∨ c = '\r' then
    String.ofList ('"' :: s.toList.flatMap (fun c ↦ if c = '"' then ['"', '"'] else [c]) ++ ['"'])
  else s

def cell : Cell Float → String
  | .text s => field s
  | .count n => toString n
  | .quantity x => Decimal.inData.text x

private def line (fields : List String) : String := "\t".intercalate fields ++ "\n"

/-- Tab-delimited text of rows under a line of column names; no rows, no text. -/
def text (rows : List (ChannelRow Float)) : String :=
  match rows with
  | [] => ""
  | first :: _ =>
    line (first.cells.map (·.1)) ++
      String.join (rows.map fun row ↦ line (row.cells.map fun c ↦ cell c.2))

end RowLog

end ThresholdTrim
