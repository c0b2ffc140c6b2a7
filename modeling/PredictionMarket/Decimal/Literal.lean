import PredictionMarket.Decimal.Double
import PredictionMarket.Decimal.Digits

/-!
# Decimal literals

A decimal literal is a sign, digits with an optional point, and an optional power of
ten. Its value is the nearest binary64 value of the exact decimal it denotes.
-/

namespace PredictionMarket.Decimal

/-- The parts of a decimal literal. -/
structure Literal where
  negative : Bool
  /-- The digits before the point. -/
  whole : List Char
  /-- The digits after the point. -/
  fraction : List Char
  exponent : Int
deriving DecidableEq

/-- The binary64 value nearest to `± coefficient * 10 ^ exponent`; nothing when that
would be infinite. Powers that put the value far outside the format are not computed. -/
def Double.ofScaled? (negative : Bool) (number : Scaled) : Option Double :=
  let coefficient := number.coefficient
  let magnitude := (digitCount coefficient : Int) + number.exponent
  if coefficient = 0 ∨ magnitude < -330 then some (.zero negative)
  else if 310 < magnitude then none
  else if 0 ≤ number.exponent then
    ofQuotient? negative (coefficient * Nat.pow 10 number.exponent.toNat) 1
  else
    ofQuotient? negative coefficient (Nat.pow 10 (-number.exponent).toNat)

/-- The exact absolute value of a literal. -/
def Literal.scaled (literal : Literal) : Scaled where
  coefficient := valueOf (literal.whole ++ literal.fraction)
  exponent := literal.exponent - literal.fraction.length

/-- The binary64 value of a literal; nothing when that would be infinite. -/
def Literal.double? (literal : Literal) : Option Double :=
  Double.ofScaled? literal.negative literal.scaled

/-- Splits a text into its leading decimal digits and the rest. -/
def spanDigits (text : List Char) : List Char × List Char :=
  (text.takeWhile Char.isDigit, text.dropWhile Char.isDigit)

/-- Splits a sign off a text; a text without a sign is positive. -/
def spanSign : List Char → Bool × List Char
  | '+' :: rest => (false, rest)
  | '-' :: rest => (true, rest)
  | rest => (false, rest)

/-- Reads the rest of a literal as its power of ten: nothing, or `e` or `E`, an
optional sign and at least one digit, up to the end of the text. -/
def exponent? : List Char → Option Int
  | [] => some 0
  | mark :: rest =>
    if mark = 'e' ∨ mark = 'E' then
      let (negative, rest) := spanSign rest
      match spanDigits rest with
      | (shown@(_ :: _), []) =>
        some (if negative then -(valueOf shown : Int) else valueOf shown)
      | _ => none
    else
      none

/-- Reads a whole text as a literal. The sign, the point and the power of ten are
optional; one digit before or after the point is needed. -/
def Literal.ofText? (text : List Char) : Option Literal :=
  let (negative, rest) := spanSign text
  let (whole, rest) := spanDigits rest
  let (fraction, rest) :=
    match rest with
    | '.' :: rest => spanDigits rest
    | rest => ([], rest)
  if whole.isEmpty && fraction.isEmpty then none
  else (exponent? rest).map fun exponent => { negative, whole, fraction, exponent }

end PredictionMarket.Decimal
