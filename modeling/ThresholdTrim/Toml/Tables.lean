/-!
# Values and tables

The value of a configuration text. A table lists its members in the order they were first named. A
number written with a minus sign remembers it, since a not-a-number forgets it.

A document names a table in several places: in headers, as part of longer headers, and through
dotted keys. Which of these may follow which depends on how a table came about, so a document
under construction keeps that with each table. A finished document forgets it.
-/

namespace ThresholdTrim.Toml

inductive Value
  | str (s : String)
  | int (n : Int)
  | float (x : Float) (minus : Bool)
  | bool (b : Bool)
  /-- A date, a time, or both. -/
  | dateTime
  | array (items : List Value)
  | table (members : List (String × Value))
  deriving Inhabited

/-- Why a text is no TOML document. -/
inductive Fault
  /-- A character, or the end of the text, where it cannot stand; `rest` characters are left. -/
  | unexpected (rest : Nat)
  | badNumber (token : String)
  | duplicateKey (key : String)
  /-- A key below a value that is no table. -/
  | notATable (key : String)
  | tooDeep
  deriving DecidableEq

/-- Wording of a fault in a text, with its line where it has one. -/
def Fault.message (text : String) : Fault → String
  | .unexpected rest =>
    let before := text.toList.take (text.length - rest)
    "unexpected character or end of text in line " ++ toString (before.count '\n' + 1)
  | .badNumber token => "no valid value: " ++ token
  | .duplicateKey key => "duplicate key: " ++ key
  | .notATable key => "not a table: " ++ key
  | .tooDeep => "nested too deeply"

/-! ## Documents under construction -/

/-- How a table came about. -/
inductive Origin
  /-- Named by a header of its own. -/
  | header
  /-- Named only as part of a longer header. -/
  | passing
  /-- Named by a dotted key. -/
  | dotted
  deriving DecidableEq

/-- A member of a document under construction. -/
inductive Node
  | value (value : Value)
  | table (origin : Origin) (members : List (String × Node))
  /-- Tables of one name, each with a header of its own; the last one is open. -/
  | tables (items : List (List (String × Node)))

abbrev Members := List (String × Node)

namespace Members

def find? (members : Members) (key : String) : Option Node :=
  (List.find? (fun member ↦ member.1 = key) members).map (·.2)

/-- The members with one of them replaced, or added behind the others. -/
def put (key : String) (node : Node) : Members → Members
  | [] => [(key, node)]
  | (k, old) :: rest => if k = key then (k, node) :: rest else (k, old) :: put key node rest

/-- Changes the table at the end of a path. Tables that are missing on the way are made with the
origin given. A dotted key goes through no table that has a header of its own. `change` is told how
the table came about. -/
def within (missing : Origin) (change : Origin → Members → Except Fault Members) :
    Origin → List String → Members → Except Fault Members
  | origin, [], members => change origin members
  | _, key :: path, members =>
    match members.find? key with
    | none => do
      let inner ← within missing change missing path []
      return members.put key (.table missing inner)
    | some (.value _) => .error (.notATable key)
    | some (.tables items) => do
      let inner ← within missing change .header path (items.getLastD [])
      return members.put key (.tables (items.dropLast ++ [inner]))
    | some (.table origin inner) => do
      if missing = .dotted ∧ origin = .header then throw (.duplicateKey key)
      let inner ← within missing change origin path inner
      return members.put key (.table origin inner)

/-- Adds a value under a key. The last table of a dotted path has to be made by dotted keys. -/
def add (path : List String) (key : String) (value : Value) (members : Members) :
    Except Fault Members :=
  within .dotted
    (fun origin members ↦
      if path ≠ [] ∧ origin ≠ .dotted then .error (.duplicateKey key)
      else match members.find? key with
        | some _ => .error (.duplicateKey key)
        | none => .ok (members.put key (.value value)))
    .header path members

/-- Opens a table with a header. -/
def openTable (path : List String) (key : String) (members : Members) : Except Fault Members :=
  within .passing
    (fun _ members ↦
      match members.find? key with
      | none => .ok (members.put key (.table .header []))
      | some (.table .passing inner) => .ok (members.put key (.table .header inner))
      | some _ => .error (.duplicateKey key))
    .header path members

/-- Opens a further table of one name. -/
def openNext (path : List String) (key : String) (members : Members) : Except Fault Members :=
  within .passing
    (fun _ members ↦
      match members.find? key with
      | none => .ok (members.put key (.tables [[]]))
      | some (.tables items) => .ok (members.put key (.tables (items ++ [[]])))
      | some _ => .error (.duplicateKey key))
    .header path members

/-- Adds a value to the table a header has opened. -/
def addAt (header path : List String) (key : String) (value : Value) (members : Members) :
    Except Fault Members :=
  within .passing (fun _ inner ↦ add path key value inner) .header header members

end Members

/-! ## Finished documents -/

mutual

def Node.finish : Node → Value
  | .value value => value
  | .table _ members => .table (finishMembers members)
  | .tables items => .array (finishTables items)

def finishMembers : List (String × Node) → List (String × Value)
  | [] => []
  | (key, node) :: rest => (key, node.finish) :: finishMembers rest

def finishTables : List (List (String × Node)) → List Value
  | [] => []
  | members :: rest => .table (finishMembers members) :: finishTables rest

end

end ThresholdTrim.Toml
