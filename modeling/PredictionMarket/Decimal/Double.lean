import PredictionMarket.Decimal.Rounding

/-!
# Finite binary64 values

A finite value of the IEEE 754 format binary64 is an integer multiple of
`2 ^ (-1074)`. The type keeps the one canonical form `significand * 2 ^ scale` of
that multiple together with the sign, which zero has too. Conversions from exact
quotients go to the nearest value, ties to the even significand.
-/

namespace PredictionMarket.Decimal

/-- A finite binary64 value, in its one canonical form. -/
structure Double where
  negative : Bool
  significand : Nat
  scale : Nat
  significand_lt : significand < Nat.pow 2 53
  scale_le : scale ≤ 2045
  normal : scale = 0 ∨ Nat.pow 2 52 ≤ significand
deriving DecidableEq

namespace Double

/-- The number of smallest steps in one: `2 ^ 1074`. -/
def stepsPerOne : Nat := Nat.pow 2 1074

/-- The absolute value, counted in smallest steps. -/
def steps (value : Double) : Nat := value.significand * Nat.pow 2 value.scale

/-- Zero, of either sign. -/
def zero (negative : Bool) : Double where
  negative
  significand := 0
  scale := 0
  significand_lt := by decide
  scale_le := by decide
  normal := .inl rfl

instance : Inhabited Double := ⟨zero false⟩

/-- Whether the value is zero, of either sign. -/
def isZero (value : Double) : Bool := value.significand == 0

/-- The value of a sign, a significand and a scale, if they are in canonical form. -/
def ofParts? (negative : Bool) (significand scale : Nat) : Option Double :=
  if fits : significand < Nat.pow 2 53 ∧ scale ≤ 2045 ∧
      (scale = 0 ∨ Nat.pow 2 52 ≤ significand) then
    some ⟨negative, significand, scale, fits.1, fits.2.1, fits.2.2⟩
  else
    none

/-- The value nearest to `± numerator / denominator`, ties to the even significand;
nothing when that would be infinite. -/
def ofQuotient? (negative : Bool) (numerator denominator : Nat) : Option Double :=
  let stepCount := numerator * stepsPerOne
  let scale := (stepCount / denominator).log2 - 52
  let significand := roundDiv .toEven stepCount (denominator * Nat.pow 2 scale)
  if significand = Nat.pow 2 53 then ofParts? negative (Nat.pow 2 52) (scale + 1)
  else ofParts? negative significand scale

/-- The value nearest to an integer. -/
def ofInt? (n : Int) : Option Double := ofQuotient? (n < 0) n.natAbs 1

/-- Whether the value is an integer. -/
def isIntegral (value : Double) : Bool := value.steps % stepsPerOne == 0

/-- The value with its fraction cut off. -/
def truncate (value : Double) : Int :=
  let whole : Int := (value.steps / stepsPerOne : Nat)
  if value.negative then -whole else whole

/-- Whether the absolute value is below an integer. -/
def absLessThan (value : Double) (bound : Nat) : Bool :=
  value.steps < bound * stepsPerOne

/-- The 64 bits of the interchange format: sign, biased exponent, fraction. -/
def bits (value : Double) : Nat :=
  let sign := if value.negative then Nat.pow 2 63 else 0
  let magnitude :=
    if value.significand < Nat.pow 2 52 then value.significand
    else (value.scale + 1) * Nat.pow 2 52 + (value.significand - Nat.pow 2 52)
  sign + magnitude

/-- A value is zero exactly when it has no steps. -/
theorem isZero_iff {value : Double} : value.isZero = true ↔ value.steps = 0 := by
  rw [isZero, beq_iff_eq, steps, Nat.mul_eq_zero]
  exact ⟨.inl, fun product => product.resolve_right (Nat.ne_of_gt (Nat.two_pow_pos _))⟩

/-- Canonical parts are taken as they are. -/
theorem ofParts?_parts (value : Double) :
    ofParts? value.negative value.significand value.scale = some value := by
  have fits := And.intro value.significand_lt (And.intro value.scale_le value.normal)
  simp only [ofParts?, dif_pos fits]

end Double

end PredictionMarket.Decimal
