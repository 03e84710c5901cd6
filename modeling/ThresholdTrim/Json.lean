import ThresholdTrim.Decimal

/-!
# JSON values

Register documents and summaries are JSON values. An object lists its members in ascending order
of their keys, each key once; `Json.insert` keeps it so, and objects that are built through it and
have the same members are equal. Texts are compact, or indented by two blanks a level.
-/

namespace ThresholdTrim

inductive Json
  | null
  | bool (b : Bool)
  | int (n : Int)
  | real (x : Float)
  | str (s : String)
  | arr (items : List Json)
  | obj (members : List (String × Json))

namespace Json

/-- The members of an object with `key` set to `value`. -/
def insert (key : String) (value : Json) : List (String × Json) → List (String × Json)
  | [] => [(key, value)]
  | (k, v) :: rest =>
    match compare key k with
    | .lt => (key, value) :: (k, v) :: rest
    | .eq => (key, value) :: rest
    | .gt => (k, v) :: insert key value rest

/-- The object with the given members; of two with one key the later counts. -/
def ofMembers (members : List (String × Json)) : Json :=
  .obj (members.foldl (fun acc (k, v) ↦ insert k v acc) [])

/-- Value of a member. -/
def lookup (key : String) : List (String × Json) → Option Json
  | [] => none
  | (k, v) :: rest => if k = key then some v else lookup key rest

theorem lookup_insert (key other : String) (value : Json) (members : List (String × Json)) :
    lookup other (insert key value members) =
      if key = other then some value else lookup other members := by
  induction members with
  | nil => simp [insert, lookup]
  | cons member rest ih =>
    obtain ⟨k, v⟩ := member
    rw [insert]
    split
    · simp [lookup]
    · next same =>
      obtain rfl : key = k := by simpa using same
      simp only [lookup]
      split <;> rfl
    · next greater =>
      simp only [lookup, ih]
      by_cases first : k = other
      · have : key ≠ other := by
          rintro rfl
          subst first
          simp at greater
        simp [first, this]
      · simp [first]

/-- Member of an object; other values have none. -/
def get? (json : Json) (key : String) : Option Json :=
  match json with
  | .obj members => lookup key members
  | _ => none

def nat (n : Nat) : Json := .int n

/-! ## Text -/

private def hexDigit (n : Nat) : Char := (Nat.toDigits 16 n).headD '0'

/-- A character within a quoted text. -/
def escape (c : Char) : List Char :=
  if c = '"' then ['\\', '"']
  else if c = '\\' then ['\\', '\\']
  else if c = '\n' then ['\\', 'n']
  else if c = '\r' then ['\\', 'r']
  else if c = '\t' then ['\\', 't']
  else if c.toNat = 8 then ['\\', 'b']
  else if c.toNat = 12 then ['\\', 'f']
  else if c.toNat < 32 then
    ['\\', 'u', '0', '0', hexDigit (c.toNat / 16), hexDigit (c.toNat % 16)]
  else [c]

def quote (s : String) : String := String.ofList ('"' :: s.toList.flatMap escape ++ ['"'])

private def leafText : Json → String
  | .null => "null"
  | .bool b => if b then "true" else "false"
  | .int n => toString n
  | .real x => if x.isFinite then Decimal.inData.text x else "null"
  | .str s => quote s
  | .arr _ => "[]"
  | .obj _ => "\x7b\x7d"

mutual

/-- Text without blanks. -/
def compact : Json → String
  | .arr items => "[" ++ ",".intercalate (compactItems items) ++ "]"
  | .obj members => "\x7b" ++ ",".intercalate (compactMembers members) ++ "\x7d"
  | leaf => leafText leaf

private def compactItems : List Json → List String
  | [] => []
  | item :: rest => compact item :: compactItems rest

private def compactMembers : List (String × Json) → List String
  | [] => []
  | (key, value) :: rest => (quote key ++ ":" ++ compact value) :: compactMembers rest

end

/-- Start of a line at a nesting depth. -/
private def line (depth : Nat) : String := "\n" ++ String.ofList (List.replicate (2 * depth) ' ')

/-- Lines of an array or object between its brackets. -/
private def block (opening closing : String) (depth : Nat) (lines : List String) : String :=
  opening ++ ",".intercalate (lines.map (line (depth + 1) ++ ·)) ++ line depth ++ closing

mutual

private def indented (depth : Nat) : Json → String
  | .arr (item :: rest) => block "[" "]" depth (indentedItems (depth + 1) (item :: rest))
  | .obj (member :: rest) =>
    block "\x7b" "\x7d" depth (indentedMembers (depth + 1) (member :: rest))
  | leaf => leafText leaf

private def indentedItems (depth : Nat) : List Json → List String
  | [] => []
  | item :: rest => indented depth item :: indentedItems depth rest

private def indentedMembers (depth : Nat) : List (String × Json) → List String
  | [] => []
  | (key, value) :: rest =>
    (quote key ++ ": " ++ indented depth value) :: indentedMembers depth rest

end

/-- Text with one member or item a line, indented by two blanks a level. -/
def pretty (json : Json) : String := indented 0 json

end Json

end ThresholdTrim
