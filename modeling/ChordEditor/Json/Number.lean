import ChordEditor.Json.Value
import ChordEditor.Text.Classes

namespace ChordEditor

/-!
# JSON numbers

Whole numbers of 64 bits, with or without sign, are kept as they are; all others are
taken to binary floating point.  For these the digits are collected in a significand
of 64 bits as long as it holds them, and the significand is then multiplied or divided
by a power of ten.
-/

/-- The digits and the exponent of a number, before its value is worked out. -/
structure JsonDigits where
  significand : Nat
  exponent : Int
  deriving Repr, DecidableEq

namespace JsonDigits

/-- The nearest binary number to a power of ten. -/
def powerOfTen? (exponent : Nat) : Option Binary64 :=
  Binary64.ofRatio? (Nat.pow 10 exponent) 1

/-- The largest power of ten used in one step. -/
def largestPower : Nat := 308

/-- Divide by powers of ten until the exponent is in reach. -/
def divideDown (value : Binary64) (exponent : Nat) : Option Binary64 :=
  if exponent ≤ largestPower then do
    let power ← powerOfTen? exponent
    value.div? power
  else if value.mantissa = 0 then
    some value
  else do
    let power ← powerOfTen? largestPower
    let smaller ← value.div? power
    divideDown smaller (exponent - largestPower)
termination_by exponent
decreasing_by
  simp only [largestPower] at *
  omega

/-- The value of the digits, if it is not too large. -/
def value? (digits : JsonDigits) : Option Binary64 := do
  let value ← Binary64.ofRatio? digits.significand 1
  if digits.exponent < 0 then
    divideDown value (-digits.exponent).toNat
  else if digits.exponent ≤ largestPower then
    let power ← powerOfTen? digits.exponent.toNat
    value.mul? power
  else if digits.significand = 0 then
    some value
  else
    none

/-- Whether one more digit fits into the significand. -/
def takes (digits : JsonDigits) (digit : Nat) : Bool :=
  digits.significand * 10 + digit ≤ Text.maxWord64

/--
Take the digits in front of the point; those from the first one on that does not fit
only raise the exponent.
-/
def takeWhole (digits : JsonDigits) (full : Bool) : List Nat → JsonDigits
  | [] => digits
  | digit :: rest =>
      if !full && digits.takes digit then
        takeWhole { digits with significand := digits.significand * 10 + digit } false rest
      else
        takeWhole { digits with exponent := digits.exponent + 1 } true rest

/-- Take the digits behind the point; those from the first one on that does not fit are left out. -/
def takeFraction (digits : JsonDigits) : List Nat → JsonDigits
  | [] => digits
  | digit :: rest =>
      if digits.takes digit then
        takeFraction
          { significand := digits.significand * 10 + digit
            exponent := digits.exponent - 1 }
          rest
      else
        digits

end JsonDigits

/-- A number cut into its parts. -/
structure JsonNumberText where
  negative : Bool
  whole : List Char
  /-- The digits behind the point, if there is a point. -/
  fraction : Option (List Char)
  /-- The sign and the digits of the exponent, if there is one. -/
  exponent : Option (Bool × List Char)
  deriving Repr, DecidableEq

namespace JsonNumberText

/-- Cut an exponent off: its sign, and the text behind the sign. -/
def signed (text : List Char) : Bool × List Char :=
  match text with
  | '-' :: rest => (true, rest)
  | '+' :: rest => (false, rest)
  | _ => (false, text)

/-- Cut a number into its parts; nothing may follow them. -/
def cut? (text : List Char) : Option JsonNumberText :=
  let (negative, unsignedText) :=
    match text with
    | '-' :: rest => (true, rest)
    | _ => (false, text)
  let whole := unsignedText.takeWhile Char.isDigit
  let behindWhole := unsignedText.dropWhile Char.isDigit
  let (fraction, behindFraction) :=
    match behindWhole with
    | '.' :: rest => (some (rest.takeWhile Char.isDigit), rest.dropWhile Char.isDigit)
    | _ => (none, behindWhole)
  match behindFraction with
  | [] => some { negative, whole, fraction, exponent := none }
  | c :: rest =>
      if c = 'e' ∨ c = 'E' then
        some { negative, whole, fraction, exponent := some (signed rest) }
      else
        none

/-- Whether there are digits, and digits only. -/
def areDigits (text : List Char) : Bool :=
  !text.isEmpty && text.all Char.isDigit

/-- Whether the parts make up a number: no zero in front, and digits in every part. -/
def isWellFormed (parts : JsonNumberText) : Bool :=
  areDigits parts.whole &&
    (parts.whole.length == 1 || parts.whole.head? != some '0') &&
    parts.fraction.all areDigits &&
    parts.exponent.all fun exponent => areDigits exponent.2

/-- The values of the digits of a text. -/
def digitValues (text : List Char) : List Nat :=
  text.filterMap Text.digitValue?

/-- The largest exponent that is worked out. -/
def maxExponent : Nat := Nat.pow 2 31 - 1

/-- The value of a number that has a fraction, an exponent, or too many digits. -/
def floating? (parts : JsonNumberText) : Option JsonValue := do
  let whole := JsonDigits.takeWhole ⟨0, 0⟩ false (digitValues parts.whole)
  let digits := whole.takeFraction (digitValues (parts.fraction.getD []))
  let (downwards, shown) := parts.exponent.getD (false, [])
  let exponent ← Text.digitsValue? shown
  if exponent > maxExponent then
    if digits.significand ≠ 0 ∧ !downwards then
      none
    else
      some (.decimal ⟨parts.negative, 0, 0⟩)
  else
    let shift : Int := if downwards then -exponent else exponent
    let value ← { digits with exponent := digits.exponent + shift }.value?
    some (.decimal (Decimal.ofBinary64 parts.negative value))

/-- The value of a number. -/
def value? (parts : JsonNumberText) : Option JsonValue :=
  if parts.isWellFormed then
    match parts.fraction, parts.exponent, Text.digitsValue? parts.whole with
    | none, none, some magnitude =>
        if parts.negative then
          if 0 < magnitude ∧ magnitude ≤ Nat.pow 2 63 then
            some (.integer (-magnitude))
          else
            parts.floating?
        else if magnitude ≤ Text.maxWord64 then
          some (.integer magnitude)
        else
          parts.floating?
    | _, _, _ => parts.floating?
  else
    none

end JsonNumberText

end ChordEditor
