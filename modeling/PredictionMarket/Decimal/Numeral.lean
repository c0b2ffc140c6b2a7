import PredictionMarket.Decimal.Shortest

/-!
# Numerals

The text of a binary64 value from its shortest digits. What a text format decides on
top of the digits, where positional notation ends and whether an integer keeps a
fraction, is one record.
-/

namespace PredictionMarket.Decimal

/-- What a text format decides about the shortest digits of a value. -/
structure NumeralStyle where
  /-- Which of two equally near shortest decimals is written. -/
  tie : Tie
  /-- The powers of ten, from the first up to but not including the second, whose
  multiples are written positionally; all of them when there is no range. -/
  positional : Option (Int × Int)
  /-- Whether an integral value is written with the fraction `.0`. -/
  pointed : Bool

/-- Digits followed by a power of ten in positional notation. -/
def positionalText (shown : List Char) (exponent : Int) : List Char :=
  let places := (-exponent).toNat
  if 0 ≤ exponent then shown ++ List.replicate exponent.toNat '0'
  else if places < shown.length then
    shown.take (shown.length - places) ++ '.' :: shown.drop (shown.length - places)
  else
    '0' :: '.' :: (List.replicate (places - shown.length) '0' ++ shown)

/-- Digits in exponent notation, with one digit before the point. -/
def exponentText (shown : List Char) (power : Int) : List Char :=
  let mantissa :=
    match shown with
    | lead :: next :: rest => lead :: '.' :: next :: rest
    | short => short
  let sign := if power < 0 then '-' else '+'
  mantissa ++ 'e' :: sign :: digits power.natAbs

/-- The text of an absolute value that is not zero. -/
def NumeralStyle.magnitude (style : NumeralStyle) (value : Double) : List Char :=
  let number := value.shortest style.tie
  let shown := digits number.coefficient
  let power := (shown.length : Int) - 1 + number.exponent
  let isPositional :=
    match style.positional with
    | none => true
    | some (least, bound) => least ≤ power && power < bound
  if isPositional then
    positionalText shown number.exponent ++
      (if style.pointed && 0 ≤ number.exponent then ['.', '0'] else [])
  else
    exponentText shown power

/-- The text of a value. -/
def NumeralStyle.text (style : NumeralStyle) (value : Double) : List Char :=
  let magnitude :=
    if value.isZero then '0' :: (if style.pointed then ['.', '0'] else [])
    else style.magnitude value
  if value.negative then '-' :: magnitude else magnitude

end PredictionMarket.Decimal
