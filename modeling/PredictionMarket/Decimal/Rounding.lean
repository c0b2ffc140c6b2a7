/-!
# Rounding a quotient to an integer

The integer nearest to a quotient of natural numbers, with the choice of what
happens to a quotient that lies halfway between two integers.
-/

namespace PredictionMarket.Decimal

/-- Where a value goes that lies exactly halfway between two integers. -/
inductive Tie where
  /-- To the even one of the two. -/
  | toEven
  /-- To the greater one. -/
  | up
deriving DecidableEq

/-- The integer next to a lower neighbour that a halfway value goes to. -/
def Tie.settle (tie : Tie) (lower : Nat) : Nat :=
  match tie with
  | .toEven => lower + lower % 2
  | .up => lower + 1

/-- The integer nearest to `numerator / denominator`. -/
def roundDiv (tie : Tie) (numerator denominator : Nat) : Nat :=
  let quotient := numerator / denominator
  let twice := 2 * (numerator % denominator)
  if twice < denominator then quotient
  else if denominator < twice then quotient + 1
  else tie.settle quotient

/-- A halfway value goes to one of its two neighbours. -/
theorem Tie.settle_bounds (tie : Tie) (lower : Nat) :
    lower ≤ tie.settle lower ∧ tie.settle lower ≤ lower + 1 := by
  cases tie <;> (simp only [settle]; omega)

/-- The rounded quotient is within half a unit of the quotient. -/
theorem roundDiv_within_half (tie : Tie) (numerator denominator : Nat)
    (positive : 0 < denominator) :
    2 * numerator ≤ (2 * roundDiv tie numerator denominator + 1) * denominator ∧
      (2 * roundDiv tie numerator denominator) * denominator ≤
        2 * numerator + denominator := by
  have split := Nat.div_add_mod numerator denominator
  have small := Nat.mod_lt numerator positive
  have bounds := tie.settle_bounds (numerator / denominator)
  generalize quotientIs : numerator / denominator = quotient at *
  generalize remainderIs : numerator % denominator = remainder at *
  have expand : ∀ n : Nat, (2 * n) * denominator = 2 * (denominator * n) := by
    intro n; rw [Nat.mul_comm denominator n, Nat.mul_assoc]
  unfold roundDiv
  simp only [quotientIs, remainderIs]
  split
  · rw [Nat.add_mul, expand]; omega
  · split
    · rw [Nat.add_mul, expand, Nat.mul_add]; omega
    · rcases Nat.lt_or_ge quotient (tie.settle quotient) with more | same
      · have exact : tie.settle quotient = quotient + 1 := by omega
        rw [exact, Nat.add_mul, expand, Nat.mul_add]; omega
      · have exact : tie.settle quotient = quotient := by omega
        rw [exact, Nat.add_mul, expand]; omega

/-- A quotient that is an integer is its own rounding. -/
theorem roundDiv_mul_self (tie : Tie) (quotient denominator : Nat)
    (positive : 0 < denominator) :
    roundDiv tie (quotient * denominator) denominator = quotient := by
  simp [roundDiv, Nat.mul_div_cancel _ positive, positive]

end PredictionMarket.Decimal
