import ThresholdTrim.Config
import ThresholdTrim.Config.VmmSpec
import ThresholdTrim.Csv

/-!
# Lists of boards

The boards to calibrate can be listed in a file of their own: comma-separated records under a fixed
line of column names. White space around names and fields does not matter.
-/

namespace ThresholdTrim

/-- What is wrong with a record. -/
inductive RowFault
  | fieldCount (found : Nat)
  | side (text : String)
  | sector (cause : NumberFault)
  | flavor (text : String)

def RowFault.message : RowFault → String
  | .fieldCount found => "found record with " ++ toString found ++ " fields"
  | .side text => "unknown side " ++ Text.quoted text
  | .sector cause => "bad sector: " ++ cause.message
  | .flavor text => "unknown flavor " ++ Text.quoted text

/-- Why a text is no list of boards. -/
inductive BoardListFault
  | columns (found : List String)
  /-- Rows are counted from the line of column names on, which is row 1. -/
  | row (number : Nat) (cause : RowFault)
  | vmms (board : String) (cause : VmmFault)
  | empty

namespace BoardList

def columns : List String := ["name", "side", "sector", "flavor", "vmms"]

/-- A number in decimal, or in hexadecimal behind a mark. -/
def number (cs : List Char) : Except NumberFault Nat :=
  match cs with
  | '0' :: 'x' :: digits => ByteText.read 16 digits
  | cs => ByteText.read 10 cs

private def side? (text : String) : Option Side :=
  if text = "A" then some .a else if text = "C" then some .c else none

private def flavor? (text : String) : Option Flavor :=
  if text = "mmfe8" then some .mmfe8
  else if text = "sfeb" then some .sfeb
  else if text = "pfeb" then some .pfeb
  else none

/-- Fields of a record, but for the list of devices, which is still a text. -/
def row (fields : List String) : Except RowFault (BoardEntry × String) :=
  match fields with
  | [name, side, sector, flavor, vmms] => do
    let some side := side? side | throw (.side side)
    let sector ← (number sector.toList).mapError .sector
    let some flavor := flavor? flavor | throw (.flavor flavor)
    return ({
      name, side, sector, flavor
      vmms := []
      channels := BoardEntry.defaultChannels }, vmms)
  | fields => .error (.fieldCount fields.length)

def entry (position : Nat) (fields : List String) : Except BoardListFault BoardEntry := do
  let (board, vmms) ← (row fields).mapError (.row (position + 2))
  let vmms ← (VmmSpec.parse vmms).mapError (.vmms board.name)
  return { board with vmms }

private def trimmed (fields : List String) : List String :=
  fields.map fun field ↦ String.ofList (Text.trim field.toList)

/-- The boards a text lists; there is one at least. -/
def parse (text : String) : Except BoardListFault (List BoardEntry) := do
  let records := (Csv.records text).map trimmed
  let found := records.headD []
  if found ≠ columns then throw (.columns found)
  let boards ← records.tail.zipIdx.mapM fun (fields, position) ↦ entry position fields
  if boards.isEmpty then throw .empty
  return boards

end BoardList

/-- Wording of a fault in the list at `path`. -/
def BoardListFault.message (path : String) : BoardListFault → String
  | .columns found =>
    "device CSV must have headers '" ++ ",".intercalate BoardList.columns ++ "', got: "
      ++ ",".intercalate found
  | .row number cause => "invalid CSV row " ++ toString number ++ ": " ++ cause.message
  | .vmms board cause => "device " ++ board ++ ": " ++ cause.message
  | .empty => "device CSV " ++ Text.quoted path ++ " lists no devices"

end ThresholdTrim
