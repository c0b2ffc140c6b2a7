import PredictionMarket.Decimal.Grouped
import PredictionMarket.Decimal.Literal
import PredictionMarket.Json.Printer
import PredictionMarket.Text.Blank

/-!
# Values as text and as amounts

How a loosely typed value stands in running text, and which amount it denotes. A text
stands for itself, a number is a plain decimal without exponent, a container is its
compact JSON text, and `null` has no text. Amounts are finite numbers, and texts that
are decimal literals.
-/

namespace PredictionMarket

open Decimal (Double Literal intText plainNumeral digits)

/-- Integral binary64 values below this bound are written exactly. -/
def exactIntegralBound : Nat := Nat.pow 10 15

/-- The plain decimal text of a binary64 value. -/
def Decimal.Double.plainText (value : Double) : List Char :=
  if value.isIntegral && value.absLessThan exactIntegralBound then
    (if value.negative then ['-'] else []) ++ digits value.truncate.natAbs
  else
    plainNumeral.text value

/-- The plain decimal text of a number. -/
def Number.plainText : Number → String
  | .integer value => String.ofList (intText value.toInt)
  | .double value => String.ofList value.plainText

namespace Json

/-- The text of a value in running text; `null` has none. -/
def plainText? : Json → Option String
  | null => none
  | string value => some value
  | bool value => some (if value then "true" else "false")
  | number value => some value.plainText
  | container => some container.toCompactText

/-- The finite amount that a value denotes. -/
def amount? : Json → Option Double
  | number value => value.toDouble?
  | string value => (Literal.ofText? (Text.trim value.toList)).bind Literal.double?
  | _ => none

end Json

end PredictionMarket
