namespace ChordEditor

/-!
# Numbers in binary floating point of 64 bits

Non-negative finite numbers of the format, as exact values: a mantissa below `2 ^ 53`
times a power of two.  `ofRatio?` rounds a fraction to the nearest such number, and to
the one with the even mantissa when two are equally near.
-/

/-- The number `mantissa * 2 ^ exponent`. -/
structure Binary64 where
  mantissa : Nat
  exponent : Int
  deriving Repr, DecidableEq

namespace Binary64

/-- The number of binary places of a full mantissa. -/
def precision : Nat := 53

/-- The exponent of the smallest numbers. -/
def minExponent : Int := -1074

/-- The exponent of the largest numbers. -/
def maxExponent : Int := 971

/-- Zero. -/
def zero : Binary64 := ⟨0, minExponent⟩

/-- A quotient rounded to the nearest whole number, and to the even one on a tie. -/
def roundDiv (num den : Nat) : Nat :=
  let quotient := num / den
  let twice := 2 * (num % den)
  if twice > den ∨ (twice = den ∧ quotient % 2 = 1) then quotient + 1 else quotient

/-- Numerator and denominator of a fraction divided by a power of two. -/
def scaleDown (num den : Nat) (exponent : Int) : Nat × Nat :=
  if exponent ≥ 0 then
    (num, den * Nat.pow 2 exponent.toNat)
  else
    (num * Nat.pow 2 (-exponent).toNat, den)

/-- The exponent with which a positive fraction has a mantissa of full length. -/
def fittingExponent (num den : Nat) : Int :=
  let guess : Int := (num.log2 : Int) - den.log2 - precision
  let (scaledNum, scaledDen) := scaleDown num den guess
  let exact := if scaledNum / scaledDen ≥ Nat.pow 2 precision then guess + 1 else guess
  max exact minExponent

/-- The number nearest to a fraction, if that is not too large. -/
def ofRatio? (num den : Nat) : Option Binary64 :=
  if num = 0 then
    some zero
  else
    let exponent := fittingExponent num den
    let (scaledNum, scaledDen) := scaleDown num den exponent
    let rounded := roundDiv scaledNum scaledDen
    let (mantissa, exponent) :=
      if rounded = Nat.pow 2 precision then (Nat.pow 2 (precision - 1), exponent + 1)
      else (rounded, exponent)
    if exponent > maxExponent then none else some ⟨mantissa, exponent⟩

/-- Numerator and denominator of a number. -/
def ratio (value : Binary64) : Nat × Nat :=
  scaleDown value.mantissa 1 (-value.exponent)

/-- The number nearest to a product. -/
def mul? (left right : Binary64) : Option Binary64 :=
  let (leftNum, leftDen) := left.ratio
  let (rightNum, rightDen) := right.ratio
  ofRatio? (leftNum * rightNum) (leftDen * rightDen)

/-- The number nearest to a quotient by a number that is not zero. -/
def div? (left right : Binary64) : Option Binary64 :=
  let (leftNum, leftDen) := left.ratio
  let (rightNum, rightDen) := right.ratio
  ofRatio? (leftNum * rightDen) (leftDen * rightNum)

end Binary64

end ChordEditor
