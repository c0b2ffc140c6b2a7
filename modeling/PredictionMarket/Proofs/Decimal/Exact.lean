import Mathlib.Data.Rat.Floor
import Mathlib.Tactic.FieldSimp
import Mathlib.Tactic.Positivity
import PredictionMarket.Decimal.Literal
import PredictionMarket.Proofs.Decimal.Nearest

/-!
# Exact values

Binary64 values, decimals and decimal literals denote rational numbers. Rounding to an
integer is stated over these: the result is within half a unit, and even when two integers
are equally near (`IsRounding`); it keeps the order of numbers, so at most one integer is the
rounding of a number, and the rounding of a quotient that is computed on natural numbers is it.
-/

namespace PredictionMarket.Decimal

open Double (stepsPerOne stepsPerOne_pos)

/-- A number with the sign that a minus gives it. -/
def signed (negative : Bool) (magnitude : ℚ) : ℚ := if negative then -magnitude else magnitude

/-- A sign does not change the absolute value. -/
theorem abs_signed {negative : Bool} {magnitude : ℚ} (nonneg : 0 ≤ magnitude) :
    |signed negative magnitude| = magnitude := by
  cases negative
  · exact abs_of_nonneg nonneg
  · exact (abs_neg magnitude).trans (abs_of_nonneg nonneg)

/-- A number is below zero when it has a minus and is not zero. -/
theorem signed_neg_iff {negative : Bool} {magnitude : ℚ} (nonneg : 0 ≤ magnitude) :
    signed negative magnitude < 0 ↔ negative = true ∧ magnitude ≠ 0 := by
  cases negative
  · exact ⟨fun below => absurd below (not_lt.2 nonneg), fun both => nomatch both.1⟩
  · rw [signed, if_pos rfl, neg_lt_zero, nonneg.lt_iff_ne']
    exact ⟨fun nonzero => ⟨rfl, nonzero⟩, And.right⟩

/-- The rational number that a binary64 value is. -/
def Double.toRat (value : Double) : ℚ :=
  signed value.negative (value.steps / stepsPerOne)

/-- The rational number that a decimal is. -/
def Scaled.toRat (number : Scaled) : ℚ := number.coefficient * 10 ^ number.exponent

/-- The rational number that a decimal literal denotes. -/
def Literal.toRat (literal : Literal) : ℚ := signed literal.negative literal.scaled.toRat

namespace Double

variable {value : Double}

/-- There are steps in one. -/
theorem stepsPerOne_pos_rat : (0 : ℚ) < stepsPerOne := Nat.cast_pos.2 stepsPerOne_pos

/-- The absolute value, counted in smallest steps. -/
theorem abs_toRat (value : Double) : |value.toRat| = value.steps / stepsPerOne :=
  abs_signed (div_nonneg (Nat.cast_nonneg _) stepsPerOne_pos_rat.le)

/-- A value is zero when its number is. -/
theorem toRat_eq_zero_iff : value.toRat = 0 ↔ value.isZero = true := by
  rw [isZero_iff, ← abs_eq_zero, abs_toRat, div_eq_zero_iff, Nat.cast_eq_zero]
  exact or_iff_left stepsPerOne_pos_rat.ne'

/-- The number of a value is below zero when it has a minus and is not zero. -/
theorem toRat_neg_iff : value.toRat < 0 ↔ value.negative = true ∧ value.isZero = false := by
  have nonneg : (0 : ℚ) ≤ value.steps / stepsPerOne :=
    div_nonneg (Nat.cast_nonneg _) stepsPerOne_pos_rat.le
  have nonzero : (value.steps / stepsPerOne : ℚ) ≠ 0 ↔ value.isZero = false := by
    rw [← Bool.not_eq_true value.isZero, ← toRat_eq_zero_iff, ← abs_eq_zero, abs_toRat]
  exact (signed_neg_iff nonneg).trans (and_congr_right fun _ => nonzero)

end Double

/-- An integer is a number rounded to the nearest integer, ties to the even one. -/
structure IsRounding (exact : ℚ) (nearest : Nat) : Prop where
  within_half : |exact - nearest| ≤ 1 / 2
  tie_even : |exact - nearest| = 1 / 2 → nearest % 2 = 0

namespace IsRounding

variable {exact greater : ℚ} {nearest other : Nat}

/-- Rounding keeps the order of numbers. -/
theorem mono (isNearest : IsRounding exact nearest) (isOther : IsRounding greater other)
    (ordered : exact ≤ greater) : nearest ≤ other := by
  by_contra smaller
  obtain ⟨lower, upper⟩ := abs_le.1 isNearest.within_half
  obtain ⟨otherLower, otherUpper⟩ := abs_le.1 isOther.within_half
  -- The roundings are next to one another, and both numbers lie halfway between them.
  have apart : (other : ℚ) + 1 ≤ nearest := by exact_mod_cast not_le.1 smaller
  have next : (other : ℚ) + 1 = nearest := by linarith
  have nearestTie : exact - nearest = -(1 / 2) := by linarith
  have otherTie : greater - other = 1 / 2 := by linarith
  have nearestEven : nearest % 2 = 0 := isNearest.tie_even (by rw [nearestTie]; norm_num)
  have otherEven : other % 2 = 0 := isOther.tie_even (by rw [otherTie]; norm_num)
  have successor : other + 1 = nearest := by exact_mod_cast next
  omega

/-- A number has at most one rounding. -/
theorem unique (isNearest : IsRounding exact nearest) (isOther : IsRounding exact other) :
    other = nearest :=
  Nat.le_antisymm (isOther.mono isNearest le_rfl) (isNearest.mono isOther le_rfl)

end IsRounding

/-- A quotient that is half a unit away from its rounding is rounded to an even integer. -/
theorem roundDiv_even_of_halfway {numerator denominator nearest : Nat}
    (positive : 0 < denominator) (rounded : roundDiv .toEven numerator denominator = nearest)
    (halfway : 2 * numerator = 2 * (nearest * denominator) + denominator ∨
      2 * numerator + denominator = 2 * (nearest * denominator)) : nearest % 2 = 0 := by
  have split := Nat.div_add_mod numerator denominator
  have small := Nat.mod_lt numerator positive
  unfold roundDiv at rounded
  dsimp only [Tie.settle] at rounded
  generalize numerator / denominator = quotient at *
  generalize numerator % denominator = remainder at *
  rw [Nat.mul_comm] at split
  split at rounded
  · subst rounded
    omega
  · split at rounded
    · subst rounded
      rw [Nat.add_mul, Nat.one_mul] at halfway
      omega
    · omega

/-- The rounding of a quotient is computed on natural numbers. -/
theorem isRounding_roundDiv {numerator denominator : Nat} (positive : 0 < denominator) :
    IsRounding (numerator / denominator) (roundDiv .toEven numerator denominator) := by
  obtain ⟨upper, lower⟩ := roundDiv_within_half .toEven numerator denominator positive
  generalize rounded : roundDiv .toEven numerator denominator = nearest at *
  have unit : (0 : ℚ) < denominator := Nat.cast_pos.2 positive
  have twice : (0 : ℚ) < 2 * denominator := by positivity
  have half : (1 / 2 : ℚ) = denominator / (2 * denominator) := by field_simp
  have difference : (numerator / denominator - nearest : ℚ) =
      (2 * numerator - 2 * (nearest * denominator)) / (2 * denominator) := by field_simp
  have distance : |(numerator / denominator - nearest : ℚ)| =
      |(2 * numerator - 2 * (nearest * denominator) : ℚ)| / (2 * denominator) := by
    rw [difference, abs_div, abs_of_pos twice]
  constructor
  · have upperRat : (2 * numerator : ℚ) ≤ (2 * nearest + 1) * denominator := by
      exact_mod_cast upper
    have lowerRat : (2 * nearest * denominator : ℚ) ≤ 2 * numerator + denominator := by
      exact_mod_cast lower
    rw [distance, half]
    refine div_le_div_of_nonneg_right (abs_le.2 ⟨?_, ?_⟩) twice.le <;> linarith
  · intro tie
    rw [distance, half, div_left_inj' twice.ne', abs_eq unit.le] at tie
    refine roundDiv_even_of_halfway positive rounded (tie.imp (fun above => ?_) fun below => ?_)
    · have : (2 * numerator : ℚ) = 2 * (nearest * denominator) + denominator := by linarith
      exact_mod_cast this
    · have : (2 * numerator + denominator : ℚ) = 2 * (nearest * denominator) := by linarith
      exact_mod_cast this

end PredictionMarket.Decimal
