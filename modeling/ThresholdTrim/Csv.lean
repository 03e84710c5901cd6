/-!
# Comma-separated records

A text is a sequence of records, each a line of fields between commas. A field that starts with a
quote runs to the next quote that stands alone, commas and line ends included; two quotes in it are
one. Lines without any character are no records.
-/

namespace ThresholdTrim.Csv

/-- Where in a record the next character stands. -/
inductive Position
  | recordStart
  | fieldStart
  /-- In a field without quotes, or behind the closing quote of one with. -/
  | inField
  | inQuotes
  /-- Behind a quote within quotes, which may be the closing one. -/
  | afterQuote
  deriving DecidableEq

/-- What was read so far, all of it in reverse. -/
structure Reader where
  position : Position
  field : List Char
  fields : List String
  records : List (List String)

namespace Reader

def start : Reader := ⟨.recordStart, [], [], []⟩

def push (reader : Reader) (position : Position) (c : Char) : Reader :=
  { reader with position, field := c :: reader.field }

def endField (reader : Reader) : Reader :=
  { reader with
    position := .fieldStart
    field := []
    fields := String.ofList reader.field.reverse :: reader.fields }

def endRecord (reader : Reader) : Reader :=
  let reader := reader.endField
  { reader with
    position := .recordStart
    fields := []
    records := reader.fields.reverse :: reader.records }

def isLineEnd (c : Char) : Bool := c = '\n' || c = '\r'

/-- A character that a field without quotes could hold. -/
def plain (reader : Reader) (c : Char) : Reader :=
  if c = ',' then reader.endField
  else if isLineEnd c then reader.endRecord
  else reader.push .inField c

def step (reader : Reader) (c : Char) : Reader :=
  let opened := { reader with position := .inQuotes }
  match reader.position with
  | .recordStart =>
    if isLineEnd c then reader else if c = '"' then opened else reader.plain c
  | .fieldStart => if c = '"' then opened else reader.plain c
  | .inField => reader.plain c
  | .inQuotes =>
    if c = '"' then { reader with position := .afterQuote } else reader.push .inQuotes c
  | .afterQuote => if c = '"' then reader.push .inQuotes c else reader.plain c

/-- The records once the text is over, which ends the last of them. -/
def finish (reader : Reader) : List (List String) :=
  let reader := if reader.position = .recordStart then reader else reader.endRecord
  reader.records.reverse

end Reader

/-- Records of a text. A byte order mark at the start does not count. -/
def records (text : String) : List (List String) :=
  let cs := match text.toList with
    | c :: rest => if c.toNat = 0xFEFF then rest else c :: rest
    | [] => []
  (cs.foldl Reader.step Reader.start).finish

end ThresholdTrim.Csv
