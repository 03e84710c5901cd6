import ThresholdTrim.Toml.Tables
import ThresholdTrim.Decimal

/-!
# Words of a TOML document

Strings, keys, numbers, truth values and dates. Readers of strings and keys return the rest of the
text; the other values are written without blanks, so that they are split off first and judged as
a whole.
-/

namespace ThresholdTrim.Toml

/-- A value taken off the start of a text, and the rest of the text. -/
abbrev Taken (α : Type) := α × List Char

def stuck {α : Type} (rest : List Char) : Except Fault α := .error (.unexpected rest.length)

/-- A blank within a line. -/
def isSpace (c : Char) : Bool := c = ' ' || c = '\t'

def skipSpaces (cs : List Char) : List Char := cs.dropWhile isSpace

/-- Characters that may stand in strings and comments: no controls but the tab. -/
def isVisible (c : Char) : Bool := c = '\t' || (0x20 ≤ c.toNat && c.toNat ≠ 0x7F)

/-! ## Strings -/

private def hexValue? (digits : List Char) : Option Nat :=
  digits.foldlM
    (fun n c ↦
      if c.isDigit then some (16 * n + (c.toNat - '0'.toNat))
      else if 'a' ≤ c ∧ c ≤ 'f' then some (16 * n + (c.toNat - 'a'.toNat + 10))
      else if 'A' ≤ c ∧ c ≤ 'F' then some (16 * n + (c.toNat - 'A'.toNat + 10))
      else none) 0

/-- Character with the code point given by hexadecimal digits. -/
private def codePoint? (digits : List Char) : Option Char := do
  let n ← hexValue? digits
  if n.isValidChar then some (Char.ofNat n) else none

private def shortEscape? (c : Char) : Option Char :=
  match c with
  | 'b' => some (Char.ofNat 8)
  | 't' => some '\t'
  | 'n' => some '\n'
  | 'f' => some (Char.ofNat 12)
  | 'r' => some '\r'
  | '"' => some '"'
  | '\\' => some '\\'
  | _ => none

/-- Rest of a string on one line, behind its opening quote, with what was read so far reversed. -/
def basicString : List Char → List Char → Except Fault (Taken String)
  | '"' :: rest, acc => .ok (String.ofList acc.reverse, rest)
  | '\\' :: 'u' :: a :: b :: c :: d :: rest, acc =>
    match codePoint? [a, b, c, d] with
    | some x => basicString rest (x :: acc)
    | none => stuck rest
  | '\\' :: 'U' :: a :: b :: c :: d :: e :: f :: g :: h :: rest, acc =>
    match codePoint? [a, b, c, d, e, f, g, h] with
    | some x => basicString rest (x :: acc)
    | none => stuck rest
  | '\\' :: c :: rest, acc =>
    match shortEscape? c with
    | some x => basicString rest (x :: acc)
    | none => stuck rest
  | c :: rest, acc => if isVisible c then basicString rest (c :: acc) else stuck (c :: rest)
  | [], _ => stuck []

/-- Rest of a string without escapes, behind its opening quote. -/
def literalString : List Char → List Char → Except Fault (Taken String)
  | '\'' :: rest, acc => .ok (String.ofList acc.reverse, rest)
  | c :: rest, acc => if isVisible c then literalString rest (c :: acc) else stuck (c :: rest)
  | [], _ => stuck []

/-- Whether only blanks are left in the line. -/
private def endsLine (cs : List Char) : Bool :=
  match skipSpaces cs with
  | '\n' :: _ | '\r' :: '\n' :: _ => true
  | _ => false

/-- Rest of a string over several lines. Up to two quotes may stand before the closing three; a
backslash at the end of a line skips all blanks and line ends up to the next character, which
`skipping` tells. -/
def basicLines : List Char → List Char → (skipping : Bool) → Except Fault (Taken String)
  | '"' :: '"' :: '"' :: '"' :: '"' :: rest, acc, _ =>
    .ok (String.ofList ('"' :: '"' :: acc).reverse, rest)
  | '"' :: '"' :: '"' :: '"' :: rest, acc, _ => .ok (String.ofList ('"' :: acc).reverse, rest)
  | '"' :: '"' :: '"' :: rest, acc, _ => .ok (String.ofList acc.reverse, rest)
  | '\n' :: rest, acc, skipping => basicLines rest (if skipping then acc else '\n' :: acc) skipping
  | '\r' :: '\n' :: rest, acc, skipping =>
    basicLines rest (if skipping then acc else '\n' :: acc) skipping
  | '\\' :: 'u' :: a :: b :: c :: d :: rest, acc, _ =>
    match codePoint? [a, b, c, d] with
    | some x => basicLines rest (x :: acc) false
    | none => stuck rest
  | '\\' :: 'U' :: a :: b :: c :: d :: e :: f :: g :: h :: rest, acc, _ =>
    match codePoint? [a, b, c, d, e, f, g, h] with
    | some x => basicLines rest (x :: acc) false
    | none => stuck rest
  | '\\' :: c :: rest, acc, _ =>
    match shortEscape? c with
    | some x => basicLines rest (x :: acc) false
    | none =>
      if endsLine (c :: rest) then
        if isSpace c || c = '\n' then basicLines rest acc true
        else match rest with
          | _ :: rest => basicLines rest acc true
          | [] => stuck []
      else stuck (c :: rest)
  | c :: rest, acc, skipping =>
    if skipping && isSpace c then basicLines rest acc true
    else if isVisible c then basicLines rest (c :: acc) false
    else stuck (c :: rest)
  | [], _, _ => stuck []

/-- Rest of a string over several lines without escapes. -/
def literalLines : List Char → List Char → Except Fault (Taken String)
  | '\'' :: '\'' :: '\'' :: '\'' :: '\'' :: rest, acc =>
    .ok (String.ofList ('\'' :: '\'' :: acc).reverse, rest)
  | '\'' :: '\'' :: '\'' :: '\'' :: rest, acc => .ok (String.ofList ('\'' :: acc).reverse, rest)
  | '\'' :: '\'' :: '\'' :: rest, acc => .ok (String.ofList acc.reverse, rest)
  | '\n' :: rest, acc => literalLines rest ('\n' :: acc)
  | '\r' :: '\n' :: rest, acc => literalLines rest ('\n' :: acc)
  | c :: rest, acc => if isVisible c then literalLines rest (c :: acc) else stuck (c :: rest)
  | [], _ => stuck []

/-- A line end right behind the opening quotes does not count. -/
private def skipFirstLineEnd : List Char → List Char
  | '\n' :: rest | '\r' :: '\n' :: rest => rest
  | cs => cs

/-- A string of any of the four kinds, if the text starts with a quote. -/
def string? (cs : List Char) : Option (Except Fault (Taken String)) :=
  match cs with
  | '"' :: '"' :: '"' :: rest => some (basicLines (skipFirstLineEnd rest) [] false)
  | '\'' :: '\'' :: '\'' :: rest => some (literalLines (skipFirstLineEnd rest) [])
  | '"' :: rest => some (basicString rest [])
  | '\'' :: rest => some (literalString rest [])
  | _ => none

/-! ## Keys -/

/-- Characters of a key without quotes; ASCII only, by the rules of the format. -/
def isBare (c : Char) : Bool := c.isAlphanum || c = '-' || c = '_'

/-- One part of a key. -/
def keyPart (cs : List Char) : Except Fault (Taken String) :=
  match cs with
  | '"' :: rest => basicString rest []
  | '\'' :: rest => literalString rest []
  | cs =>
    match cs.takeWhile isBare with
    | [] => stuck cs
    | part => .ok (String.ofList part, cs.dropWhile isBare)

/-! ## Numbers -/

/-- Digits without the single underscores between them. -/
def ungroup? (isDigit : Char → Bool) : List Char → Option (List Char)
  | [] => none
  | [c] => if isDigit c then some [c] else none
  | c :: '_' :: rest => if isDigit c then (ungroup? isDigit rest).map (c :: ·) else none
  | c :: rest => if isDigit c then (ungroup? isDigit rest).map (c :: ·) else none

/-- Sign of a number and its body. -/
def splitSign : List Char → Bool × List Char
  | '-' :: rest => (true, rest)
  | '+' :: rest => (false, rest)
  | rest => (false, rest)

/-- Whole part of a decimal number: no leading zeros. -/
private def wholeDigits? (cs : List Char) : Option (List Char) := do
  match ← ungroup? Char.isDigit cs with
  | '0' :: _ :: _ => none
  | digits => some digits

private def isInt64 (n : Int) : Bool :=
  Int64.minValue.toInt ≤ n && n ≤ Int64.maxValue.toInt

private def radixValue (base : Nat) (digits : List Char) : Nat :=
  digits.foldl
    (fun n c ↦ base * n +
      (if c.isDigit then c.toNat - '0'.toNat else c.toLower.toNat - 'a'.toNat + 10)) 0

/-- An integer in decimal, or without a sign in base 16, 8 or 2, within 64 bits. -/
def integer? (token : List Char) : Option Int :=
  let radix (base : Nat) (isDigit : Char → Bool) (cs : List Char) : Option Int := do
    let n := (radixValue base (← ungroup? isDigit cs) : Int)
    if isInt64 n then some n else none
  match token with
  | '0' :: 'x' :: rest =>
    radix 16 (fun c ↦ c.isDigit || ('a' ≤ c && c ≤ 'f') || ('A' ≤ c && c ≤ 'F')) rest
  | '0' :: 'o' :: rest => radix 8 (fun c ↦ '0' ≤ c && c ≤ '7') rest
  | '0' :: 'b' :: rest => radix 2 (fun c ↦ c = '0' || c = '1') rest
  | token => do
    let (minus, body) := splitSign token
    let n := (Decimal.digitsValue (← wholeDigits? body) : Int)
    let n := if minus then -n else n
    if isInt64 n then some n else none

private def isExponentMark (c : Char) : Bool := c = 'e' || c = 'E'

/-- A decimal number with a fraction or an exponent, a signed infinity or a signed not-a-number. No
number written out may be too large to be finite, a negative one excepted. -/
def float? (token : List Char) : Option Value :=
  let (minus, body) := splitSign token
  if body = "inf".toList then some (.float (if minus then -(1 / 0) else 1 / 0) minus)
  else if body = "nan".toList then some (.float (0 / 0) minus)
  else do
    let mantissa := body.takeWhile fun c ↦ !isExponentMark c
    let exponent ← match body.drop mantissa.length with
      | [] => some []
      | mark :: rest => do
        let (negative, digits) := splitSign rest
        let digits ← ungroup? Char.isDigit digits
        some (mark :: (if negative then '-' :: digits else digits))
    let whole ← wholeDigits? (mantissa.takeWhile (· ≠ '.'))
    let fraction ← match mantissa.dropWhile (· ≠ '.') with
      | [] => some []
      | _ :: rest => do some ('.' :: (← ungroup? Char.isDigit rest))
    if exponent.isEmpty && fraction.isEmpty then none
    let x ← Decimal.read? (whole ++ fraction ++ exponent)
    if x.isInf && !minus then none
    return .float (if minus then -x else x) minus

/-! ## Dates -/

/-- Value of exactly `width` digits within bounds, and the rest. -/
private def field? (width low high : Nat) (cs : List Char) : Option (Nat × List Char) :=
  let digits := cs.take width
  let n := Decimal.digitsValue digits
  if digits.length = width && digits.all Char.isDigit && low ≤ n && n ≤ high then
    some (n, cs.drop width)
  else none

private def expect? (c : Char) : List Char → Option (List Char)
  | d :: rest => if d = c then some rest else none
  | [] => none

private def daysInMonth (year month : Nat) : Nat :=
  if month = 2 then
    if year % 4 = 0 ∧ (year % 100 ≠ 0 ∨ year % 400 = 0) then 29 else 28
  else if month = 4 ∨ month = 6 ∨ month = 9 ∨ month = 11 then 30
  else 31

/-- A date of the calendar, and the rest. -/
def date? (cs : List Char) : Option (List Char) := do
  let (year, rest) ← field? 4 0 9999 cs
  let (month, rest) ← field? 2 1 12 (← expect? '-' rest)
  let (_, rest) ← field? 2 1 (daysInMonth year month) (← expect? '-' rest)
  return rest

/-- A time of day with seconds, of which there may be sixty, and the rest. -/
private def time? (cs : List Char) : Option (List Char) := do
  let (_, rest) ← field? 2 0 23 cs
  let (_, rest) ← field? 2 0 59 (← expect? ':' rest)
  let (_, rest) ← field? 2 0 60 (← expect? ':' rest)
  match rest with
  | '.' :: more =>
    if (more.takeWhile Char.isDigit).isEmpty then none
    else return more.dropWhile Char.isDigit
  | rest => return rest

private def isOffset : List Char → Bool
  | [] => true
  | [c] => c = 'Z' || c = 'z'
  | sign :: rest =>
    (sign = '+' || sign = '-') && (do
      let (_, rest) ← field? 2 0 23 rest
      let (_, rest) ← field? 2 0 59 (← expect? ':' rest)
      return rest.isEmpty).getD false

/-- Whether a token is a date, a time, or a date with a time and perhaps an offset. -/
def isDateTime (token : List Char) : Bool :=
  match date? token with
  | some [] => true
  | some (separator :: rest) =>
    (separator = 'T' || separator = 't' || separator = ' ')
      && ((time? rest).map isOffset).getD false
  | none => time? token = some []

/-! ## Values written without blanks -/

private def isWord (c : Char) : Bool :=
  c.isAlphanum || c = '_' || c = '+' || c = '-' || c = '.' || c = ':'

/-- Splits a value written without blanks off a text. A blank may part a date and its time. -/
def splitWord (cs : List Char) : List Char × List Char :=
  let word := cs.takeWhile isWord
  let rest := cs.dropWhile isWord
  match date? word, rest with
  | some [], ' ' :: c :: more =>
    if c.isDigit then
      (word ++ ' ' :: (c :: more).takeWhile isWord, (c :: more).dropWhile isWord)
    else (word, rest)
  | _, _ => (word, rest)

/-- Value of such a word. -/
def wordValue? (word : List Char) : Option Value :=
  if word = "true".toList then some (.bool true)
  else if word = "false".toList then some (.bool false)
  else if isDateTime word then some .dateTime
  else match integer? word with
    | some n => some (.int n)
    | none => float? word

end ThresholdTrim.Toml
