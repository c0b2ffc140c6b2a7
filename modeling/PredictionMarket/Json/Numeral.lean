import PredictionMarket.Decimal.Literal
import PredictionMarket.Decimal.Scaling
import PredictionMarket.Json.Basic

/-!
# JSON numerals

A numeral without point and power that fits a machine word is an integer. Every other
numeral is a binary64 value: its leading digits, as many as fit an unsigned word, are
rounded to the nearest value and then scaled by the power of ten that is left. A
numeral that would be infinite is refused.
-/

namespace PredictionMarket.Json

open Decimal (Double Literal Scaled spanDigits valueFrom valueOf)

/-- The bound below which the leading digits of a numeral stay: that of an unsigned
64-bit word. -/
def coefficientBound : Nat := 18446744073709551616

/-- The leading digits of a whole part, continued from the number read before them. The
digits from the first that does not fit are counted in the power of ten. -/
def leadingWhole (start : Nat) : List Char → Scaled
  | [] => ⟨start, 0⟩
  | digit :: rest =>
    let next := valueFrom start [digit]
    if next < coefficientBound then leadingWhole next rest
    else ⟨start, (digit :: rest).length⟩

/-- A number continued by the leading digits of a fraction. The digits from the first
that does not fit are dropped. -/
def leadingFraction (start : Scaled) : List Char → Scaled
  | [] => start
  | digit :: rest =>
    let next := valueFrom start.coefficient [digit]
    if next < coefficientBound then leadingFraction ⟨next, start.exponent - 1⟩ rest
    else start

/-- The leading digits of a literal with the power of ten that belongs to them. -/
def leadingDigits (literal : Literal) : Scaled :=
  let number := leadingFraction (leadingWhole 0 literal.whole) literal.fraction
  { number with exponent := number.exponent + literal.exponent }

/-- The binary64 value of a numeral. -/
def doubleOf? (literal : Literal) : Option Double :=
  let number := leadingDigits literal
  (Double.ofQuotient? literal.negative number.coefficient 1).bind
    (·.timesPowerOfTen? number.exponent)

/-- The number of a literal: a word integer if it has neither point nor power and fits,
else a binary64 value. Minus zero is not an integer. -/
def numberOf? (literal : Literal) (integral : Bool) : Option Number :=
  let magnitude : Int := valueOf literal.whole
  let value := if literal.negative then -magnitude else magnitude
  let word? :=
    if integral && !(literal.negative && magnitude == 0) then WordInt.ofInt? value else none
  match word? with
  | some word => some (.integer word)
  | none => (doubleOf? literal).map .double

/-- Reads digits of which there must be at least one. -/
def someDigits? (text : List Char) : Option (List Char × List Char) :=
  match spanDigits text with
  | ([], _) => none
  | split => some split

/-- Reads a whole part: a single zero, or digits that do not begin with zero. -/
def wholePart? : List Char → Option (List Char × List Char)
  | '0' :: rest => some (['0'], rest)
  | rest => someDigits? rest

/-- Reads an optional fraction; nothing is returned beside the rest if there is none. -/
def fractionPart? : List Char → Option (Option (List Char) × List Char)
  | '.' :: rest => (someDigits? rest).map fun (shown, rest) => (some shown, rest)
  | rest => some (none, rest)

/-- Reads an optional power of ten. -/
def powerPart? : List Char → Option (Option Int × List Char)
  | [] => some (none, [])
  | mark :: rest =>
    if mark = 'e' ∨ mark = 'E' then
      let (negative, rest) := Decimal.spanSign rest
      (someDigits? rest).map fun (shown, rest) =>
        (some (if negative then -(valueOf shown : Int) else valueOf shown), rest)
    else some (none, mark :: rest)

/-- Reads a numeral at the start of a text. -/
def number? (text : List Char) : Option (Number × List Char) := do
  let (negative, rest) :=
    match text with
    | '-' :: rest => (true, rest)
    | rest => (false, rest)
  let (whole, rest) ← wholePart? rest
  let (fraction, rest) ← fractionPart? rest
  let (power, rest) ← powerPart? rest
  let literal : Literal :=
    { negative, whole, fraction := fraction.getD [], exponent := power.getD 0 }
  let number ← numberOf? literal (fraction.isNone && power.isNone)
  return (number, rest)

end PredictionMarket.Json
