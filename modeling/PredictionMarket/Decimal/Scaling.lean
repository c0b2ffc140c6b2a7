import PredictionMarket.Decimal.Double

/-!
# Scaling by powers of ten

The product and the quotient of two binary64 values, and the scaling of a value by a
power of ten as a product or as quotients. Every step is rounded to the nearest value
on its own, so a scaled value is close to the exact product but need not be the value
nearest to it.
-/

namespace PredictionMarket.Decimal

namespace Double

/-- The value nearest to the product of two values; nothing when that would be
infinite. -/
def times? (left right : Double) : Option Double :=
  ofQuotient? (left.negative != right.negative) (left.steps * right.steps)
    (stepsPerOne * stepsPerOne)

/-- The value nearest to the quotient of two values; nothing when that would be
infinite, and when the divisor is zero. -/
def over? (value divisor : Double) : Option Double :=
  if divisor.isZero then none
  else ofQuotient? (value.negative != divisor.negative) value.steps divisor.steps

/-- The greatest exponent whose power of ten is finite. -/
def greatestPower : Nat := 308

/-- The value nearest to a power of ten; nothing when that would be infinite. -/
def powerOfTen? (exponent : Nat) : Option Double :=
  if exponent ≤ greatestPower then ofQuotient? false (Nat.pow 10 exponent) 1 else none

/-- A value over a power of ten. A power that is not finite is divided out in parts, the
greatest finite power first, until it is used up or the value is zero. -/
def overPowerOfTen? (value : Double) (exponent : Nat) : Option Double :=
  if exponent ≤ greatestPower then (powerOfTen? exponent).bind value.over?
  else if value.isZero then some value
  else
    ((powerOfTen? greatestPower).bind value.over?).bind fun smaller =>
      smaller.overPowerOfTen? (exponent - greatestPower)
termination_by exponent
decreasing_by simp only [greatestPower] at *; omega

/-- A value times a power of ten; nothing when that would be infinite. -/
def timesPowerOfTen? (value : Double) (exponent : Int) : Option Double :=
  if value.isZero then some value
  else if 0 ≤ exponent then (powerOfTen? exponent.toNat).bind value.times?
  else value.overPowerOfTen? (-exponent).toNat

end Double

end PredictionMarket.Decimal
