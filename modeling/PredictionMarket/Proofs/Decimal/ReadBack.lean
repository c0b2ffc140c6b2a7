import PredictionMarket.Decimal.Literal
import PredictionMarket.Proofs.Decimal.Digits
import PredictionMarket.Proofs.Decimal.Nearest

/-!
# Decimals that read back

A decimal in the interval of a binary64 value is read as that value (`ofScaled?_of_rounds`),
and the shortest decimal of a value lies in its interval (`rounds_shortest`): writing the
fewest digits loses nothing. Decimals are compared in units of the last place that a value
can have, so a decimal and the same decimal with other zeros at its end are one number.
-/

namespace PredictionMarket.Decimal

open Double (exactPlaces stepsPerOne)

namespace Scaled

/-- A decimal in units of the last place that a binary64 value can have. -/
def units (number : Scaled) : Nat :=
  number.coefficient * 10 ^ (number.exponent + exactPlaces).toNat

/-- A decimal has no place behind the last one that a binary64 value can have. -/
def Placed (number : Scaled) : Prop := -(exactPlaces : Int) ≤ number.exponent

/-- Removing the zeros at the end of the coefficient keeps the number. -/
theorem units_normalized (number : Scaled) (placed : number.Placed) :
    number.normalized.units = number.units ∧ number.normalized.Placed := by
  fun_induction normalized number with
  | case1 number divides inductionHypothesis =>
    have behind : Placed ⟨number.coefficient / 10, number.exponent + 1⟩ := by
      unfold Placed at *
      dsimp only
      omega
    obtain ⟨same, stays⟩ := inductionHypothesis behind
    refine ⟨same.trans ?_, stays⟩
    unfold Placed at placed
    have next : (number.exponent + 1 + exactPlaces).toNat =
        (number.exponent + exactPlaces).toNat + 1 := by omega
    have whole : number.coefficient / 10 * 10 = number.coefficient := by omega
    rw [units, units, next, pow_succ', ← Nat.mul_assoc, whole]
  | case2 number complete => exact ⟨rfl, placed⟩

end Scaled

namespace Double

variable {value : Double}

/-- Whether a quotient rounds to a value depends on the quotient only. -/
theorem Rounds.congr {stepCount denominator other otherDenominator : Nat}
    (rounds : value.Rounds stepCount denominator) (positive : 0 < denominator)
    (otherPositive : 0 < otherDenominator)
    (same : stepCount * otherDenominator = other * denominator) :
    value.Rounds other otherDenominator := by
  obtain ⟨lower, upper, inside⟩ := rounds
  constructor
  · refine Nat.le_of_mul_le_mul_right ?_ positive
    have := Nat.mul_le_mul_right otherDenominator lower
    linarith
  · refine Nat.le_of_mul_le_mul_right ?_ positive
    have := Nat.mul_le_mul_right otherDenominator upper
    linarith
  · intro odd
    have strictlyAbove := Nat.mul_lt_mul_of_pos_right (inside odd).1 otherPositive
    have strictlyBelow := Nat.mul_lt_mul_of_pos_right (inside odd).2 otherPositive
    constructor
    · refine Nat.lt_of_mul_lt_mul_right (a := denominator) ?_
      linarith
    · refine Nat.lt_of_mul_lt_mul_right (a := denominator) ?_
      linarith

/-- The units of one smallest step. -/
def unitsPerStep : Nat := Nat.pow 5 exactPlaces

/-- There are units in a smallest step. -/
theorem unitsPerStep_pos : 0 < unitsPerStep := by
  unfold unitsPerStep
  generalize exactPlaces = places
  exact Nat.pow_pos (by decide)

/-- The units of one are those of all its steps. -/
theorem ten_pow_exactPlaces : 10 ^ exactPlaces = unitsPerStep * stepsPerOne := by
  unfold unitsPerStep exactPlaces stepsPerOne
  generalize 1074 = places
  exact mul_pow 5 2 places

/-- A count of units reads back when it rounds to the value. -/
theorem readsBack_iff {units : Nat} :
    value.readsBack units = true ↔ value.Rounds units unitsPerStep := by
  unfold readsBack unitsPerStep
  generalize Nat.pow 5 exactPlaces = factor
  constructor
  · intro reads
    dsimp only at reads
    split at reads
    · next even =>
      simp only [Bool.and_eq_true, decide_eq_true_eq] at reads
      exact ⟨reads.1, reads.2, fun odd => by omega⟩
    · next notEven =>
      simp only [Bool.and_eq_true, decide_eq_true_eq] at reads
      exact ⟨Nat.le_of_lt reads.1, Nat.le_of_lt reads.2, fun _ => reads⟩
  · rintro ⟨lower, upper, inside⟩
    split
    · simp [lower, upper]
    · next notEven =>
      obtain ⟨strictlyAbove, strictlyBelow⟩ := inside (by omega)
      simp [strictlyAbove, strictlyBelow]

/-- Only zero has zero in its interval. -/
theorem lowerEnd_pos (nonzero : value.isZero = false) : 0 < value.lowerEnd := by
  have lower := value.le_lowerEnd 1
  have unitPositive : 0 < 2 ^ value.scale := Nat.two_pow_pos _
  have significand : 0 < value.significand := by
    rw [isZero, beq_eq_false_iff_ne] at nonzero
    omega
  nlinarith

/-- The interval of a value ends before a power of two. -/
theorem upperEnd_lt (value : Double) : value.upperEnd < 2 ^ 55 * 2 ^ value.scale := by
  have upper := value.upperEnd_mul 1
  have small : value.significand < 2 ^ 53 := value.significand_lt
  rw [Nat.mul_one, Nat.one_mul] at upper
  rw [upper]
  refine Nat.mul_lt_mul_of_pos_right ?_ (Nat.two_pow_pos _)
  omega

/-- The exact value in units. -/
theorem exactUnits_eq (value : Double) : value.exactUnits = value.steps * unitsPerStep := by
  unfold exactUnits unitsPerStep
  generalize Nat.pow 5 exactPlaces = factor
  rfl

/-- The exact value is in its interval. -/
theorem rounds_exactUnits (value : Double) : value.Rounds value.exactUnits unitsPerStep := by
  have positive := unitsPerStep_pos
  have unit : 0 < Nat.pow 2 value.scale := Nat.two_pow_pos _
  have notAbove : value.lowerEnd ≤ 4 * value.steps := by
    unfold lowerEnd
    split <;> omega
  have below : 4 * value.steps < value.upperEnd := by
    unfold upperEnd
    omega
  rw [exactUnits_eq]
  generalize unitsPerStep = factor at *
  constructor
  · nlinarith
  · nlinarith
  · intro odd
    have strictlyBelow : value.lowerEnd < 4 * value.steps := by
      have some : 0 < value.steps := by
        refine Nat.mul_pos (by omega) unit
      unfold lowerEnd
      split <;> omega
    constructor
    · nlinarith
    · nlinarith

/-- The decimal that is found on a grid rounds to the value. -/
theorem rounds_of_gridPoint? {tie : Tie} {place coefficient : Nat}
    (found : value.gridPoint? tie place = some coefficient) :
    value.Rounds (coefficient * 10 ^ place) unitsPerStep := by
  have power : Nat.pow 10 place = 10 ^ place := rfl
  rw [← readsBack_iff, ← power]
  unfold gridPoint? at found
  dsimp only at found
  split at found
  · next reads => exact Option.some.inj found ▸ reads
  · rw [Option.ite_none_right_eq_some] at found
    exact Option.some.inj found.2 ▸ found.1

/-- The shortest decimal of a value rounds to it. -/
theorem rounds_shortest (value : Double) (tie : Tie) :
    (value.shortest tie).Placed ∧ value.Rounds (value.shortest tie).units unitsPerStep := by
  have normalized : ∀ number : Scaled, number.Placed → value.Rounds number.units unitsPerStep →
      number.normalized.Placed ∧ value.Rounds number.normalized.units unitsPerStep := by
    intro number placed rounds
    obtain ⟨same, stays⟩ := number.units_normalized placed
    exact ⟨stays, same ▸ rounds⟩
  rw [shortest]
  cases found : (List.range mostDigits).findSome? _ with
  | none =>
    refine normalized ⟨value.exactUnits, -(exactPlaces : Int)⟩ (Int.le_refl _) ?_
    have same : Scaled.units ⟨value.exactUnits, -(exactPlaces : Int)⟩ = value.exactUnits := by
      simp [Scaled.units]
    rw [same]
    exact value.rounds_exactUnits
  | some number =>
    obtain ⟨n, -, isNumber⟩ := List.exists_of_findSome?_eq_some found
    obtain ⟨coefficient, onGrid, rfl⟩ := Option.map_eq_some_iff.1 isNumber
    rw [Option.getD_some]
    refine normalized _ ?_ ?_
    · change -(exactPlaces : Int) ≤ _ - (exactPlaces : Int)
      omega
    · rw [Scaled.units, Int.sub_add_cancel, Int.toNat_natCast]
      exact rounds_of_gridPoint? onGrid

/-- A decimal far below the smallest step rounds to zero only. -/
theorem le_digitCount_of_rounds {number : Scaled} (nonzero : value.isZero = false)
    (placed : number.Placed) (rounds : value.Rounds number.units unitsPerStep) :
    -330 ≤ (digitCount number.coefficient : Int) + number.exponent := by
  by_contra tiny
  unfold Scaled.Placed at placed
  have lower := rounds.lower
  have atLeast : unitsPerStep ≤ 4 * number.units :=
    le_trans (Nat.le_mul_of_pos_left _ (lowerEnd_pos nonzero)) lower
  have atMost : number.units ≤ 10 ^ 743 := by
    have places : digitCount number.coefficient + (number.exponent + exactPlaces).toNat ≤ 743 := by
      have : (exactPlaces : Int) = 1074 := rfl
      omega
    calc
      number.units ≤ 10 ^ digitCount number.coefficient *
          10 ^ (number.exponent + exactPlaces).toNat :=
        Nat.mul_le_mul_right _ (Nat.le_of_lt (lt_pow_digitCount _))
      _ = 10 ^ (digitCount number.coefficient + (number.exponent + exactPlaces).toNat) :=
        (pow_add ..).symm
      _ ≤ 10 ^ 743 := pow_le_pow_right₀ (by decide) places
  have apart : 4 * 10 ^ 743 < unitsPerStep := by decide +kernel
  omega

/-- A decimal far above all values rounds to none. -/
theorem digitCount_le_of_rounds {number : Scaled} (placed : number.Placed)
    (rounds : value.Rounds number.units unitsPerStep) (positive : 0 < number.coefficient) :
    (digitCount number.coefficient : Int) + number.exponent ≤ 310 := by
  by_contra huge
  unfold Scaled.Placed at placed
  have places : 1384 ≤
      digitCount number.coefficient - 1 + (number.exponent + exactPlaces).toNat := by
    have : (exactPlaces : Int) = 1074 := rfl
    omega
  have digitCountPos : 0 < digitCount number.coefficient := Nat.length_toDigits_pos
  have scale : 2 ^ value.scale ≤ 2 ^ 2045 := pow_le_pow_right₀ (by decide) value.scale_le
  have apart : 2 ^ 55 * 2 ^ 2045 * unitsPerStep < 4 * 10 ^ 1384 := by decide +kernel
  refine absurd apart (not_lt.2 ?_)
  calc
    4 * 10 ^ 1384 ≤ 4 * (10 ^ (digitCount number.coefficient - 1) *
        10 ^ (number.exponent + exactPlaces).toNat) := by
      rw [← pow_add]
      exact Nat.mul_le_mul_left _ (pow_le_pow_right₀ (by decide) places)
    _ ≤ 4 * number.units :=
      Nat.mul_le_mul_left _ (Nat.mul_le_mul_right _
        (pow_le_of_lt_digitCount positive (Nat.sub_one_lt (Nat.ne_of_gt digitCountPos))))
    _ ≤ value.upperEnd * unitsPerStep := rounds.upper
    _ ≤ 2 ^ 55 * 2 ^ 2045 * unitsPerStep :=
      Nat.mul_le_mul_right _ (le_trans (Nat.le_of_lt value.upperEnd_lt)
        (Nat.mul_le_mul_left _ scale))

/-- A decimal that rounds to a value that is not zero is not zero. -/
theorem coefficient_pos_of_rounds {number : Scaled} (nonzero : value.isZero = false)
    (rounds : value.Rounds number.units unitsPerStep) : 0 < number.coefficient := by
  by_contra zero
  have lower := rounds.lower
  rw [Scaled.units, Nat.eq_zero_of_not_pos zero, Nat.zero_mul, Nat.mul_zero] at lower
  exact absurd (Nat.mul_pos (lowerEnd_pos nonzero) unitsPerStep_pos) (not_lt.2 lower)

/-- A decimal that rounds to a value is read as that value, with the sign that is asked
for. -/
theorem ofScaled?_of_rounds {number : Scaled} (nonzero : value.isZero = false)
    (placed : number.Placed) (rounds : value.Rounds number.units unitsPerStep)
    (negative : Bool) :
    ofScaled? negative number = some { value with negative } := by
  have positive := coefficient_pos_of_rounds nonzero rounds
  have notTiny := le_digitCount_of_rounds nonzero placed rounds
  have notHuge := digitCount_le_of_rounds placed rounds positive
  have inRange : ¬ (number.coefficient = 0 ∨
      (digitCount number.coefficient : Int) + number.exponent < -330) := by omega
  unfold Scaled.Placed at placed
  unfold ofScaled?
  rw [if_neg inRange, if_neg (not_lt.2 notHuge)]
  split
  · next whole =>
    have places : (number.exponent + exactPlaces).toNat =
        number.exponent.toNat + exactPlaces := by omega
    refine ofQuotient?_of_rounds Nat.one_pos (rounds.congr unitsPerStep_pos Nat.one_pos ?_) _
    change number.coefficient * 10 ^ (number.exponent + exactPlaces).toNat * 1 =
      number.coefficient * 10 ^ number.exponent.toNat * stepsPerOne * unitsPerStep
    rw [places, pow_add, ten_pow_exactPlaces]
    ring
  · next fractional =>
    have places : (number.exponent + exactPlaces).toNat + (-number.exponent).toNat =
        exactPlaces := by omega
    have denominatorPos : 0 < Nat.pow 10 (-number.exponent).toNat := Nat.pow_pos (by decide)
    refine ofQuotient?_of_rounds denominatorPos
      (rounds.congr unitsPerStep_pos denominatorPos ?_) _
    change number.coefficient * 10 ^ (number.exponent + exactPlaces).toNat *
        10 ^ (-number.exponent).toNat = number.coefficient * stepsPerOne * unitsPerStep
    rw [Nat.mul_assoc, ← pow_add, places, ten_pow_exactPlaces]
    ring

end Double

end PredictionMarket.Decimal
