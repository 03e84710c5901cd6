/-!
# Decimals of binary floating-point numbers

Decimal text starts from the exact value of a number, `m * 2 ^ q`, read off its bits. Everything
after that is arithmetic on natural numbers. The way back takes the double nearest to the exact
value of a text.
-/

namespace ThresholdTrim.Decimal

/-- A double, taken apart. -/
inductive Binary
  | notANumber
  | infinite (negative : Bool)
  /-- The value `significand * 2 ^ exponent`, or its negative. `evenGap` tells that the next double
  below is as far away as the next one above. -/
  | finite (negative : Bool) (significand : Nat) (exponent : Int) (evenGap : Bool)

/-- Fields of the 64 bits of a double: one sign bit, 11 exponent bits, 52 fraction bits. -/
def Binary.ofBits (bits : UInt64) : Binary :=
  let negative := bits >>> 63 == 1
  let biased := ((bits >>> 52) &&& 0x7FF).toNat
  let fraction := (bits &&& 0xFFFFFFFFFFFFF).toNat
  if biased = 2047 then
    if fraction = 0 then .infinite negative else .notANumber
  else if biased = 0 then .finite negative fraction (-1074) true
  else .finite negative ((1 <<< 52) + fraction) ((biased : Int) - 1075)
    (fraction ≠ 0 || biased = 1)

def Binary.ofFloat (x : Float) : Binary := .ofBits x.toBits

/-- Numerator and denominator of `2 ^ twos * 10 ^ tens`. -/
def scale (twos tens : Int) : Nat × Nat :=
  (Nat.pow 2 twos.toNat * Nat.pow 10 tens.toNat,
    Nat.pow 2 (-twos).toNat * Nat.pow 10 (-tens).toNat)

/-! ## A fixed number of places

The exact value is rounded to the given number of places; a value halfway between two goes to the
even one. The sign stays, also on a number that rounds to zero. -/

/-- Quotient to the nearest integer, ties to even. -/
def roundDiv (num den : Nat) : Nat :=
  let q := num / den
  let r := num % den
  if 2 * r < den then q
  else if den < 2 * r then q + 1
  else q + q % 2

/-- Digits of `units * 10 ^ (-places)`. -/
private def placed (units places : Nat) : String :=
  let digits := Nat.toDigits 10 units
  let padded := List.replicate (places + 1 - digits.length) '0' ++ digits
  let whole := padded.length - places
  String.ofList (padded.take whole) ++
    (if places = 0 then "" else "." ++ String.ofList (padded.drop whole))

/-- Text of a number with `places` decimal places. -/
def fixed (places : Nat) (x : Float) : String :=
  match Binary.ofFloat x with
  | .notANumber => "NaN"
  | .infinite negative => if negative then "-inf" else "inf"
  | .finite negative significand exponent _ =>
    let (num, den) := scale exponent places
    (if negative then "-" else "") ++ placed (roundDiv (significand * num) den) places

/-! ## Shortest decimals

The shortest text of a number is the decimal with the fewest digits that still reads back as it:
the coarsest power-of-ten grid with a point closer to the number than to any other double, and of
two such points the nearer one. Where both are equally near, the layout decides.

The numbers that read back as `m * 2 ^ q` form an interval around it, ends included exactly when
`m` is even. The grids are tried from the coarsest down; on each, only the two neighbours of the
number can be the nearest point, so only they are tested. -/

/-- The decimal `coefficient * 10 ^ exponent`. -/
structure Numeral where
  coefficient : Nat
  exponent : Int
  deriving DecidableEq

/-- The interval of numbers that read back as one double, in units of `2 ^ unit`. -/
structure Basin where
  low : Nat
  value : Nat
  high : Nat
  unit : Int
  /-- Whether the ends belong to it. -/
  closed : Bool

/-- Neighbours of a double are half a gap away; below a power of two the gap is half as wide. -/
def Basin.around (significand : Nat) (exponent : Int) (evenGap : Bool) : Basin where
  low := 4 * significand - (if evenGap then 2 else 1)
  value := 4 * significand
  high := 4 * significand + 2
  unit := exponent - 2
  closed := significand % 2 = 0

/-- Which of two equally near points is taken. -/
inductive Tie
  /-- The larger one. -/
  | above
  /-- The one with an even coefficient. -/
  | even
  deriving DecidableEq

/-- Point of the grid of spacing `10 ^ tens` that the basin is written as, if one lies in it. -/
def Basin.gridPoint (basin : Basin) (tie : Tie) (tens : Int) : Option Nat :=
  let (num, den) := scale basin.unit (-tens)
  let below := basin.value * num / den
  let above := below + 1
  let fits (d : Nat) : Bool :=
    if basin.closed then basin.low * num ≤ d * den && d * den ≤ basin.high * num
    else basin.low * num < d * den && d * den < basin.high * num
  let middle := (2 * below + 1) * den
  let takesAbove := middle < 2 * (basin.value * num) ||
    (middle == 2 * (basin.value * num) && (tie == .above || below % 2 == 1))
  match fits below && below != 0, fits above with
  | true, true => some (if takesAbove then above else below)
  | true, false => some below
  | false, true => some above
  | false, false => none

/-- First grid with a point, from spacing `10 ^ tens` down. -/
private def coarsest (basin : Basin) (tie : Tie) : Int → Nat → Option Numeral
  | _, 0 => none
  | tens, steps + 1 =>
    match basin.gridPoint tie tens with
    | some d => some ⟨d, tens⟩
    | none => coarsest basin tie (tens - 1) steps

/-- A power of ten above `significand * 2 ^ exponent`, by two decades at most. -/
private def decade (significand : Nat) (exponent : Int) : Int :=
  (((significand.log2 : Int) + exponent) * 30103).fdiv 100000 + 2

/-- Shortest decimal of a positive number. Twenty-four grids are enough, for seventeen digits tell
any two doubles apart. -/
def shortest (tie : Tie) (significand : Nat) (exponent : Int) (evenGap : Bool) : Numeral :=
  let basin := Basin.around significand exponent evenGap
  (coarsest basin tie (decade significand exponent) 24).getD ⟨0, 0⟩

/-! ### Layouts -/

/-- How a shortest decimal is laid out. -/
structure Layout where
  /-- Written behind a whole number in positional notation. -/
  wholeMark : String
  /-- Whether a number whose point stands behind its first `point` digits is written positionally
  rather than with an exponent. -/
  isPositional : (point : Int) → Bool
  tie : Tie

/-- Digits with the point behind the first `point` of them. -/
private def positional (layout : Layout) (digits : List Char) (point : Int) : String :=
  let n := (digits.length : Int)
  if point ≤ 0 then
    "0." ++ String.ofList (List.replicate (-point).toNat '0' ++ digits)
  else if n ≤ point then
    String.ofList (digits ++ List.replicate (point - n).toNat '0') ++ layout.wholeMark
  else
    String.ofList (digits.take point.toNat) ++ "." ++ String.ofList (digits.drop point.toNat)

/-- One digit before the point, the others behind it, and an exponent. -/
private def scientific (digits : List Char) (point : Int) : String :=
  let mantissa := match digits with
    | [] => ""
    | [d] => String.singleton d
    | d :: rest => String.singleton d ++ "." ++ String.ofList rest
  mantissa ++ "e" ++ toString (point - 1)

def Layout.write (layout : Layout) (d : Numeral) : String :=
  let digits := Nat.toDigits 10 d.coefficient
  let point := (digits.length : Int) + d.exponent
  if layout.isPositional point then positional layout digits point else scientific digits point

/-- Text of a number in a layout. -/
def Layout.text (layout : Layout) (x : Float) : String :=
  match Binary.ofFloat x with
  | .notANumber => "NaN"
  | .infinite negative => if negative then "-inf" else "inf"
  | .finite negative significand exponent evenGap =>
    let digits :=
      if significand = 0 then "0" ++ layout.wholeMark
      else layout.write (shortest layout.tie significand exponent evenGap)
    if negative then "-" ++ digits else digits

/-- Numbers within a sentence: never an exponent, no mark on whole numbers. -/
def inSentences : Layout := ⟨"", fun _ ↦ true, .above⟩

/-- Numbers in data: positional from `10 ^ (-5)` up to below `10 ^ 16`, whole numbers marked. -/
def inData : Layout := ⟨".0", fun point ↦ -5 < point && point ≤ 16, .even⟩

/-! ## Reading

A text has an optional sign, digits with an optional point among or behind them, and an optional
exponent. -/

/-- Value of a list of decimal digits. -/
def digitsValue (digits : List Char) : Nat :=
  digits.foldl (fun n c ↦ 10 * n + (c.toNat - '0'.toNat)) 0

/-- Leading digits and the rest. -/
def spanDigits (cs : List Char) : List Char × List Char :=
  (cs.takeWhile Char.isDigit, cs.dropWhile Char.isDigit)

/-- The double nearest to `coefficient * 10 ^ exponent`. Beyond the range of doubles the exact value
does not matter, and its powers of ten are not computed. -/
def nearest (coefficient : Nat) (exponent : Int) : Float :=
  let magnitude := (Nat.toDigits 10 coefficient).length + exponent
  if coefficient = 0 ∨ magnitude < -400 then 0
  else if 400 < magnitude then 1 / 0
  else if exponent < 0 then Float.ofScientific coefficient true exponent.natAbs
  else Float.ofScientific coefficient false exponent.natAbs

/-- Exponent behind a mark; none is zero. -/
private def exponent? : List Char → Option Int
  | [] => some 0
  | mark :: rest =>
    if mark = 'e' ∨ mark = 'E' then
      let (negative, digits) := match rest with
        | '-' :: ds => (true, ds)
        | '+' :: ds => (false, ds)
        | ds => (false, ds)
      if digits.isEmpty || !digits.all Char.isDigit then none
      else
        let n := (digitsValue digits : Int)
        some (if negative then -n else n)
    else none

/-- Double a decimal text denotes. -/
def read? (cs : List Char) : Option Float := do
  let (negative, body) := match cs with
    | '-' :: rest => (true, rest)
    | '+' :: rest => (false, rest)
    | rest => (false, rest)
  let (whole, rest) := spanDigits body
  let (fraction, rest) := match rest with
    | '.' :: more => spanDigits more
    | more => ([], more)
  if whole.isEmpty && fraction.isEmpty then none
  let exponent ← exponent? rest
  let x := nearest (digitsValue (whole ++ fraction)) (exponent - fraction.length)
  return if negative then -x else x

end ThresholdTrim.Decimal
