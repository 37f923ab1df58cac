import ChordEditor.Decimal.Binary64

namespace ChordEditor

/-!
# The shortest decimal of a binary number

A decimal reads back as a binary number when it lies in the interval of the numbers
that round to it.  The shortest decimal that does so is found on the first decimal
grid, the coarsest first, that has a point in this interval; of several such points
the nearest is taken.

`Decimal.render` writes it: positional for magnitudes from `1e-5` up to `1e15`, always
with a fraction, and with an exponent that has a sign for all others.
-/

/-- The number `coefficient * 10 ^ exponent`, or its negative. -/
structure Decimal where
  negative : Bool
  coefficient : Nat
  exponent : Int
  deriving Repr, DecidableEq

namespace Decimal

/-- Move the zeros at the end of the coefficient into the exponent, `fuel` at most. -/
def stripZeros (fuel coefficient : Nat) (exponent : Int) : Nat × Int :=
  match fuel with
  | 0 => (coefficient, exponent)
  | fuel + 1 =>
      if coefficient ≠ 0 ∧ coefficient % 10 = 0 then
        stripZeros fuel (coefficient / 10) (exponent + 1)
      else
        (coefficient, exponent)

/-- Numerator and denominator of a fraction divided by a power of ten. -/
def scaleDown (num den : Nat) (exponent : Int) : Nat × Nat :=
  if exponent ≥ 0 then
    (num, den * Nat.pow 10 exponent.toNat)
  else
    (num * Nat.pow 10 (-exponent).toNat, den)

/-- The numbers that round to a binary number, as fractions with one denominator. -/
structure Interval where
  low : Nat
  value : Nat
  high : Nat
  den : Nat
  /-- Whether the two ends belong to the interval. -/
  closed : Bool

/-- The interval of the numbers that round to a binary number. -/
def intervalOf (value : Binary64) : Interval :=
  let narrowBelow :=
    value.mantissa = Nat.pow 2 (Binary64.precision - 1) ∧ value.exponent > Binary64.minExponent
  let quarters := 4 * value.mantissa
  let (scale, den) := Binary64.scaleDown 1 4 (-value.exponent)
  { low := (quarters - if narrowBelow then 1 else 2) * scale
    value := quarters * scale
    high := (quarters + 2) * scale
    den
    closed := value.mantissa % 2 = 0 }

/-- Whether a point of the grid of a power of ten lies in an interval. -/
def holdsPoint (interval : Interval) (exponent : Int) (point : Nat) : Bool :=
  let (pointNum, pointDen) := scaleDown point 1 (-exponent)
  let place := pointNum * interval.den
  let low := interval.low * pointDen
  let high := interval.high * pointDen
  if interval.closed then low ≤ place && place ≤ high else low < place && place < high

/-- The point of a grid that lies in an interval, the nearer one if there are two. -/
def pointOn? (interval : Interval) (exponent : Int) : Option Nat :=
  let (num, den) := scaleDown interval.value interval.den exponent
  let below := num / den
  match holdsPoint interval exponent below, holdsPoint interval exponent (below + 1) with
  | false, false => none
  | true, false => some below
  | false, true => some (below + 1)
  | true, true => some (Binary64.roundDiv num den)

/-- The exponent of the leading decimal digit of a positive fraction, searched downwards. -/
def leadingExponent (num den : Nat) : Nat → Int → Int
  | 0, exponent => exponent
  | fuel + 1, exponent =>
      let (scaledNum, scaledDen) := scaleDown num den exponent
      if scaledNum ≥ scaledDen then exponent else leadingExponent num den fuel (exponent - 1)

/-- Search the grids from that of `exponent` on, each ten times finer than the one before. -/
def searchGrids (interval : Interval) : Nat → Int → Nat × Int
  | 0, exponent => (0, exponent)
  | fuel + 1, exponent =>
      match pointOn? interval exponent with
      | some point => stripZeros 20 point exponent
      | none => searchGrids interval fuel (exponent - 1)

/-- The shortest decimal that reads back as a binary number. -/
def ofBinary64 (negative : Bool) (value : Binary64) : Decimal :=
  if value.mantissa = 0 then
    ⟨negative, 0, 0⟩
  else
    let interval := intervalOf value
    let leading := leadingExponent interval.value interval.den 700 309
    let (coefficient, exponent) := searchGrids interval 18 leading
    ⟨negative, coefficient, exponent⟩

/-- The decimal digits of a number. -/
def digits (value : Nat) : List Char :=
  Nat.toDigits 10 value

/-- A positive decimal in positional notation, given its digits and the leading exponent. -/
def positional (shown : List Char) (leading : Int) : List Char :=
  if leading < 0 then
    ['0', '.'] ++ List.replicate (-leading - 1).toNat '0' ++ shown
  else
    let whole := leading.toNat + 1
    if shown.length ≤ whole then
      shown ++ List.replicate (whole - shown.length) '0' ++ ['.', '0']
    else
      shown.take whole ++ '.' :: shown.drop whole

/-- A positive decimal with an exponent, given its digits and the leading exponent. -/
def scientific (shown : List Char) (leading : Int) : List Char :=
  let fraction := if shown.length > 1 then '.' :: shown.drop 1 else []
  let sign := if leading < 0 then '-' else '+'
  shown.take 1 ++ fraction ++ 'e' :: sign :: digits leading.natAbs

/-- A decimal as text. -/
def render (decimal : Decimal) : String :=
  let shown := digits decimal.coefficient
  let leading := decimal.exponent + shown.length - 1
  let magnitude :=
    if decimal.coefficient = 0 then
      ['0', '.', '0']
    else if -5 ≤ leading ∧ leading ≤ 15 then
      positional shown leading
    else
      scientific shown leading
  String.ofList (if decimal.negative then '-' :: magnitude else magnitude)

end Decimal

end ChordEditor
