import PredictionMarket.Decimal.Double
import PredictionMarket.Decimal.Digits

/-!
# The fewest digits that read back

Every binary64 value has an exact decimal expansion of at most 1074 places. The
reals that round to a value form an interval around it, which contains its ends
exactly when the significand is even. Among the decimals in that interval the
shortest ones are found grid by grid: for one digit, two digits and so on, the two
grid points around the value are tried, the nearer one first.
-/

namespace PredictionMarket.Decimal

namespace Double

/-- The most places that the exact decimal expansion of a value has. -/
def exactPlaces : Nat := 1074

/-- The absolute value, counted in units of `10 ^ (-1074)`. -/
def exactUnits (value : Double) : Nat := value.steps * Nat.pow 5 exactPlaces

/-- Four times the lower end of the interval that rounds to the absolute value, in
smallest steps. Below a power of two the neighbouring value is only half as far. -/
def lowerEnd (value : Double) : Nat :=
  if value.significand = Nat.pow 2 52 ∧ value.scale ≠ 0 then
    4 * value.steps - Nat.pow 2 value.scale
  else
    4 * value.steps - 2 * Nat.pow 2 value.scale

/-- Four times the upper end of the interval that rounds to the absolute value, in
smallest steps. -/
def upperEnd (value : Double) : Nat := 4 * value.steps + 2 * Nat.pow 2 value.scale

/-- Whether a count of units of `10 ^ (-1074)` rounds to the absolute value. -/
def readsBack (value : Double) (units : Nat) : Bool :=
  let lower := value.lowerEnd * Nat.pow 5 exactPlaces
  let upper := value.upperEnd * Nat.pow 5 exactPlaces
  if value.significand % 2 = 0 then lower ≤ 4 * units && 4 * units ≤ upper
  else lower < 4 * units && 4 * units < upper

/-- The grid point nearest to the value that reads back, on the grid of multiples of
`10 ^ place` units; the farther neighbour only when the nearer does not read back. -/
def gridPoint? (value : Double) (tie : Tie) (place : Nat) : Option Nat :=
  let grid := Nat.pow 10 place
  let lower := value.exactUnits / grid
  let nearer := roundDiv tie value.exactUnits grid
  let farther := if nearer = lower then lower + 1 else lower
  if value.readsBack (nearer * grid) then some nearer
  else if value.readsBack (farther * grid) then some farther
  else none

/-- The most digits that a shortest decimal can need. -/
def mostDigits : Nat := 17

/-- The shortest decimal that reads back as the absolute value, and of those the
nearest one; `tie` decides between two that are equally near. -/
def shortest (value : Double) (tie : Tie) : Scaled :=
  let size := digitCount value.exactUnits
  let found := (List.range mostDigits).findSome? fun n =>
    let place := size - (n + 1)
    (value.gridPoint? tie place).map fun coefficient =>
      Scaled.mk coefficient ((place : Int) - (exactPlaces : Int))
  (found.getD ⟨value.exactUnits, -(exactPlaces : Int)⟩).normalized

end Double

end PredictionMarket.Decimal
