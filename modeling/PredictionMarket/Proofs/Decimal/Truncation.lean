import PredictionMarket.Proofs.Decimal.PlainText
import PredictionMarket.Proofs.Decimal.Exact

/-!
# Values with their fraction cut off

Cutting off the fraction of a binary64 value rounds the number that it is toward zero
(`truncate_eq`). Whether a value is an integer, and whether it is below a bound, are questions
about that number too.
-/

namespace PredictionMarket.Decimal

/-- The integer next to a number on the side of zero. -/
def towardZero (exact : ℚ) : ℤ := if 0 ≤ exact then ⌊exact⌋ else ⌈exact⌉

/-- An integer has no fraction to cut off. -/
theorem towardZero_intCast (n : ℤ) : towardZero n = n := by
  unfold towardZero
  split
  · exact Int.floor_intCast n
  · exact Int.ceil_intCast n

/-- Cutting off a fraction turns around with the sign. -/
theorem towardZero_signed {magnitude : ℚ} (nonneg : 0 ≤ magnitude) (negative : Bool) :
    towardZero (signed negative magnitude) = if negative then -⌊magnitude⌋ else ⌊magnitude⌋ := by
  cases negative with
  | false => exact if_pos nonneg
  | true =>
    rw [if_pos rfl, ← Int.ceil_neg]
    rcases nonneg.eq_or_lt with rfl | positive
    · decide
    · exact if_neg (not_le.2 (neg_lt_zero.2 positive))

namespace Double

variable {value : Double} {bound : Nat}

/-- What is left of a value is the number that it is, rounded toward zero. -/
theorem truncate_eq (value : Double) : value.truncate = towardZero value.toRat := by
  have nonneg : (0 : ℚ) ≤ value.steps / stepsPerOne :=
    div_nonneg (Nat.cast_nonneg _) stepsPerOne_pos_rat.le
  rw [toRat, towardZero_signed nonneg, Rat.floor_natCast_div_natCast]
  rfl

/-- A value is below a bound when its number is. -/
theorem absLessThan_iff : value.absLessThan bound = true ↔ |value.toRat| < bound := by
  rw [absLessThan, decide_eq_true_iff, abs_toRat, div_lt_iff₀ stepsPerOne_pos_rat]
  exact_mod_cast Iff.rfl

/-- A value is below a bound when it is with its fraction cut off. -/
theorem absLessThan_iff_truncate :
    value.absLessThan bound = true ↔ value.truncate.natAbs < bound := by
  rw [absLessThan, decide_eq_true_iff, natAbs_truncate, Nat.div_lt_iff_lt_mul stepsPerOne_pos]

/-- A value that is an integer is what is left of it. -/
theorem toRat_eq_truncate (integral : value.isIntegral = true) : value.toRat = value.truncate := by
  obtain ⟨whole, isWhole⟩ := Nat.dvd_of_mod_eq_zero (beq_iff_eq.1 integral)
  have quotient : (value.steps / stepsPerOne : ℚ) = whole := by
    rw [isWhole, Nat.cast_mul, mul_div_cancel_left₀ _ stepsPerOne_pos_rat.ne']
  have cut : value.steps / stepsPerOne = whole := by
    rw [isWhole, Nat.mul_div_cancel_left _ stepsPerOne_pos]
  rw [toRat, truncate, quotient, cut]
  cases value.negative
  · exact (Int.cast_natCast whole).symm
  · exact ((Int.cast_neg _).trans (congrArg Neg.neg (Int.cast_natCast whole))).symm

/-- A value is an integer when its number is. -/
theorem isIntegral_iff : value.isIntegral = true ↔ ∃ n : ℤ, value.toRat = n := by
  refine ⟨fun integral => ⟨_, toRat_eq_truncate integral⟩, fun ⟨n, same⟩ => ?_⟩
  have magnitude : (value.steps / stepsPerOne : ℚ) = n.natAbs := by
    rw [← abs_toRat, same, Nat.cast_natAbs, Int.cast_abs]
  rw [div_eq_iff stepsPerOne_pos_rat.ne'] at magnitude
  have steps : value.steps = n.natAbs * stepsPerOne := by exact_mod_cast magnitude
  rw [isIntegral, steps, Nat.mul_mod_left]
  rfl

end Double

end PredictionMarket.Decimal
