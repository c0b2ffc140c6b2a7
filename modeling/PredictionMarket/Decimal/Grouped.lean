import PredictionMarket.Decimal.Numeral

/-!
# Grouped decimals

A value rounded to a number of places, ties to even, with commas between groups of
three digits before the point and without zeros at the end of the fraction. A value
that is not zero but would round to zero is written in full instead.
-/

namespace PredictionMarket.Decimal

/-- The greatest number of places with which a number can be written. -/
def mostPlaces : Nat := 65535

/-- Values in full are positional at every size and drop the fraction of an integer. -/
def plainNumeral : NumeralStyle where
  tie := .up
  positional := none
  pointed := false

/-- Digits with a comma before every group of three, counted from the end. -/
def groupThousands : List Char → List Char
  | [] => []
  | digit :: rest =>
    if rest.length % 3 = 0 ∧ rest ≠ [] then digit :: ',' :: groupThousands rest
    else digit :: groupThousands rest

namespace Double

/-- The absolute value in units of the last of `places` places, rounded to an integer. -/
def roundedUnits (value : Double) (places : Nat) : Nat :=
  roundDiv .toEven (value.steps * Nat.pow 10 places) stepsPerOne

/-- The grouped text of a value with at most `places` places. -/
def grouped (value : Double) (places : Nat) : List Char :=
  let units := value.roundedUnits places
  if units = 0 ∧ value.isZero = false then plainNumeral.text value
  else
    let whole := groupThousands (digits (units / Nat.pow 10 places))
    let fraction := withoutFinalZeros (paddedDigits places (units % Nat.pow 10 places))
    let sign := if value.negative && units != 0 then ['-'] else []
    sign ++ whole ++ (if fraction.isEmpty then [] else '.' :: fraction)

end Double

/-- A value of the format binary64, finite or not. -/
inductive Quantity where
  | finite (value : Double)
  | infinite (negative : Bool)
  | undefined

/-- The grouped text of a finite value, and the name of any other. -/
def Quantity.grouped (quantity : Quantity) (places : Nat) : List Char :=
  match quantity with
  | finite value => value.grouped places
  | infinite negative => (if negative then ['-'] else []) ++ ['i', 'n', 'f']
  | undefined => ['N', 'a', 'N']

end PredictionMarket.Decimal
