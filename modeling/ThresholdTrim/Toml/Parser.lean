import ThresholdTrim.Toml.Lexical
import ThresholdTrim.Toml.Tables

/-!
# Reading TOML documents

A document is a sequence of lines: headers, keys with their values, comments. Values nest in arrays
and inline tables, to a limited depth. Every step takes a character at least, so that the length
of the text bounds the number of steps.
-/

namespace ThresholdTrim.Toml

/-- Depth from which values nest too deeply, and length from which a dotted key is too long. -/
def maxDepth : Nat := 80

/-! ## Blanks and keys -/

/-- Skips blanks, line ends and comments. `inComment` tells that a comment has begun. -/
def skipBlankLines : List Char → (inComment : Bool) → Except Fault (List Char)
  | [], _ => .ok []
  | '\n' :: rest, _ => skipBlankLines rest false
  | '\r' :: '\n' :: rest, _ => skipBlankLines rest false
  | c :: rest, true => if isVisible c then skipBlankLines rest true else stuck (c :: rest)
  | c :: rest, false =>
    if isSpace c then skipBlankLines rest false
    else if c = '#' then skipBlankLines rest true
    else .ok (c :: rest)

/-- Skips the rest of a line that may hold a comment, and the line end. -/
def skipLineEnd (cs : List Char) : Except Fault (List Char) :=
  let rest := match skipSpaces cs with
    | '#' :: comment => comment.dropWhile isVisible
    | rest => rest
  match rest with
  | [] => .ok []
  | '\n' :: rest | '\r' :: '\n' :: rest => .ok rest
  | rest => stuck rest

/-- Parts of a dotted key behind the first one, with blanks around the dots. -/
private def moreParts : Nat → List Char → Except Fault (Taken (List String))
  | 0, cs => .ok ([], cs)
  | fuel + 1, cs =>
    match skipSpaces cs with
    | '.' :: rest => do
      let (part, rest) ← keyPart (skipSpaces rest)
      let (parts, rest) ← moreParts fuel rest
      return (part :: parts, rest)
    | _ => .ok ([], cs)

/-- A dotted key: the path to its table and its last part. -/
def dottedKey (cs : List Char) : Except Fault (Taken (List String × String)) := do
  let (first, rest) ← keyPart (skipSpaces cs)
  let (parts, rest) ← moreParts rest.length rest
  let all := first :: parts
  if maxDepth ≤ all.length then throw .tooDeep
  return ((all.dropLast, all.getLastD first), skipSpaces rest)

/-! ## Values -/

mutual

/-- A value at a nesting depth. -/
def valueAt (depth : Nat) : Nat → List Char → Except Fault (Taken Value)
  | 0, cs => stuck cs
  | fuel + 1, cs =>
    match string? cs with
    | some reading => do
      let (s, rest) ← reading
      return (.str s, rest)
    | none =>
      match cs with
      | '[' :: rest => do
        if maxDepth ≤ depth + 1 then throw .tooDeep
        let (items, rest) ← arrayItems (depth + 1) fuel rest
        return (.array items, rest)
      | '{' :: rest => do
        if maxDepth ≤ depth + 1 then throw .tooDeep
        let (members, rest) ← match skipSpaces rest with
          | '}' :: rest => .ok ([], rest)
          | rest => inlineMembers (depth + 1) fuel rest []
        return (.table (finishMembers members), rest)
      | cs =>
        let (word, rest) := splitWord cs
        match wordValue? word with
        | some value => .ok (value, rest)
        | none => .error (.badNumber (String.ofList word))

/-- Items of an array behind its opening bracket or behind a comma. -/
def arrayItems (depth : Nat) : Nat → List Char → Except Fault (Taken (List Value))
  | 0, cs => stuck cs
  | fuel + 1, cs => do
    match ← skipBlankLines cs false with
    | ']' :: rest => return ([], rest)
    | cs =>
      let (item, rest) ← valueAt depth fuel cs
      match ← skipBlankLines rest false with
      | ',' :: rest => do
        let (items, rest) ← arrayItems depth fuel rest
        return (item :: items, rest)
      | ']' :: rest => return ([item], rest)
      | rest => stuck rest

/-- Members of an inline table, one at least. -/
def inlineMembers (depth : Nat) : Nat → List Char → Members → Except Fault (Taken Members)
  | 0, cs, _ => stuck cs
  | fuel + 1, cs, members => do
    let ((path, key), rest) ← dottedKey cs
    match rest with
    | '=' :: rest =>
      let (value, rest) ← valueAt depth fuel (skipSpaces rest)
      let members ← Members.add path key value members
      match skipSpaces rest with
      | ',' :: rest => inlineMembers depth fuel rest members
      | '}' :: rest => return (members, rest)
      | rest => stuck rest
    | rest => stuck rest

end

/-- A value at the start of a text. -/
def value (cs : List Char) : Except Fault (Taken Value) := valueAt 0 (2 * cs.length + 2) cs

/-! ## Documents -/

/-- A document read so far: its members, and the header its lines belong to. -/
structure Draft where
  members : Members
  header : List String

/-- Reads one statement: a header or a key with its value, to the end of its line. -/
def statement (draft : Draft) (cs : List Char) : Except Fault (Taken Draft) :=
  match cs with
  | '[' :: '[' :: rest => do
    let ((path, key), rest) ← dottedKey rest
    match rest with
    | ']' :: ']' :: rest =>
      let members ← draft.members.openNext path key
      return (⟨members, path ++ [key]⟩, ← skipLineEnd rest)
    | rest => stuck rest
  | '[' :: rest => do
    let ((path, key), rest) ← dottedKey rest
    match rest with
    | ']' :: rest =>
      let members ← draft.members.openTable path key
      return (⟨members, path ++ [key]⟩, ← skipLineEnd rest)
    | rest => stuck rest
  | cs => do
    let ((path, key), rest) ← dottedKey cs
    match rest with
    | '=' :: rest =>
      let (v, rest) ← value (skipSpaces rest)
      let members ← draft.members.addAt draft.header path key v
      return (⟨members, draft.header⟩, ← skipLineEnd rest)
    | rest => stuck rest

private def statements : Nat → Draft → List Char → Except Fault Draft
  | 0, draft, _ => .ok draft
  | fuel + 1, draft, cs => do
    match ← skipBlankLines cs false with
    | [] => return draft
    | cs =>
      let (draft, rest) ← statement draft cs
      statements fuel draft rest

/-- The table a text denotes. A byte order mark at the start does not count. -/
def parse (text : String) : Except Fault Value := do
  let cs := match text.toList with
    | c :: rest => if c.toNat = 0xFEFF then rest else c :: rest
    | [] => []
  let draft ← statements (cs.length + 1) ⟨[], []⟩ cs
  return .table (finishMembers draft.members)

end ThresholdTrim.Toml
