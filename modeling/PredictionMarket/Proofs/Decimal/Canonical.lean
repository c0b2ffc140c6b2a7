import PredictionMarket.Proofs.Decimal.PlainText
import PredictionMarket.Proofs.Decimal.Shortest

/-!
# Decimals without zeros at their end

A decimal whose coefficient does not end in zero is the only one of its number
(`Canonical.eq_of_units_eq`), and the shortest decimal of a value that is not zero is such a
decimal. So the positional text of a shortest decimal tells which decimal it is, and its
fraction, if it has one, does not end in zero. Integers that are written exactly have a shortest
decimal without places.
-/

namespace PredictionMarket.Decimal

open Double (exactPlaces stepsPerOne unitsPerStep)

namespace Scaled

/-- No zero stands at the end of the coefficient. -/
def Canonical (number : Scaled) : Prop := number.coefficient % 10 ≠ 0

variable {number other : Scaled}

/-- The zeros at the end of a coefficient are removed, unless it is zero. -/
theorem canonical_normalized (positive : 0 < number.normalized.coefficient) :
    number.normalized.Canonical := by
  fun_induction normalized number with
  | case1 number divides inductionHypothesis => exact inductionHypothesis positive
  | case2 number complete =>
    exact fun endsInZero => complete ⟨Nat.ne_of_gt positive, endsInZero⟩

namespace Canonical

/-- Of two canonical decimals of one number none has the finer last place. -/
theorem not_finer (canonical : number.Canonical) (placed : number.Placed)
    (same : number.units = other.units) : ¬ number.exponent < other.exponent := by
  intro finer
  unfold Placed at placed
  obtain ⟨more, places⟩ : ∃ more, (other.exponent + exactPlaces).toNat =
      more + 1 + (number.exponent + exactPlaces).toNat :=
    ⟨(other.exponent - number.exponent).toNat - 1, by omega⟩
  rw [units, units, places, pow_add, ← Nat.mul_assoc] at same
  have tens := Nat.eq_of_mul_eq_mul_right (Nat.pow_pos (by decide)) same
  rw [pow_succ, ← Nat.mul_assoc] at tens
  unfold Canonical at canonical
  omega

/-- A number has at most one canonical decimal. -/
theorem eq_of_units_eq (canonical : number.Canonical) (otherCanonical : other.Canonical)
    (placed : number.Placed) (otherPlaced : other.Placed) (same : number.units = other.units) :
    number = other := by
  have sameExponent : number.exponent = other.exponent := by
    have notFiner := canonical.not_finer placed same
    have notCoarser := otherCanonical.not_finer otherPlaced same.symm
    omega
  rw [units, units, sameExponent] at same
  have sameCoefficient := Nat.eq_of_mul_eq_mul_right (Nat.pow_pos (by decide)) same
  cases number
  cases other
  cases sameExponent
  cases sameCoefficient
  rfl

/-- A canonical coefficient has all the digits that it needs. -/
theorem lt_of_withinDigits (canonical : number.Canonical) {count : Nat}
    (within : WithinDigits count number.coefficient) : number.coefficient < 10 ^ count := by
  obtain ⟨shown, zeros, few, same⟩ := within
  cases zeros with
  | zero => rwa [same, pow_zero, Nat.mul_one]
  | succ more =>
    rw [pow_succ, ← Nat.mul_assoc] at same
    unfold Canonical at canonical
    omega

/-- The positional text of a canonical decimal tells which decimal it is. -/
theorem eq_of_positionalText_eq (canonical : number.Canonical) (otherCanonical : other.Canonical)
    (placed : number.Placed) (otherPlaced : other.Placed)
    (same : positionalText (digits number.coefficient) number.exponent =
      positionalText (digits other.coefficient) other.exponent) : number = other := by
  obtain ⟨literal, read, -, isNumber⟩ := exists_ofText?_positionalText number placed
  obtain ⟨otherLiteral, otherRead, -, isOther⟩ := exists_ofText?_positionalText other otherPlaced
  rw [same, otherRead] at read
  cases read
  exact canonical.eq_of_units_eq otherCanonical placed otherPlaced (isNumber.symm.trans isOther)

/-- The positional text of a canonical decimal with places does not end in zero. -/
theorem not_zero_suffix_positionalText (canonical : number.Canonical)
    (fractional : number.exponent < 0) :
    ¬ ['0'] <:+ positionalText (digits number.coefficient) number.exponent := by
  rcases positionalText_cases (digits_ne_nil number.coefficient) number.exponent with
    ⟨zeros, whole, -⟩ | ⟨zeros, before, behind, joined, -, -, nonempty, -, written⟩
  · omega
  · intro endsInZero
    -- The zero is the last digit of the fraction, and so of the coefficient.
    have inDigits : ['0'] <:+ digits number.coefficient := by
      rw [written, List.append_cons] at endsInZero
      have inBehind : ['0'] <:+ behind :=
        List.suffix_of_suffix_length_le endsInZero (List.suffix_append _ _)
          (List.length_pos_iff.2 nonempty)
      have inJoined := inBehind.trans (List.suffix_append before behind)
      rw [← joined] at inJoined
      exact List.suffix_of_suffix_length_le inJoined (List.suffix_append _ _)
        (List.length_pos_iff.2 (digits_ne_nil _))
    obtain ⟨front, shown⟩ := inDigits
    have denoted := valueOf_append_replicate_zero front 1
    rw [List.replicate_one, shown, valueOf_digits, pow_one] at denoted
    unfold Canonical at canonical
    omega

end Canonical

end Scaled

namespace Double

variable {value : Double}

/-- The shortest decimal of a value that is not zero is canonical. -/
theorem canonical_shortest (nonzero : value.isZero = false) (tie : Tie) :
    (value.shortest tie).Canonical := by
  have positive := coefficient_pos_of_rounds nonzero (value.rounds_shortest tie).2
  exact Scaled.canonical_normalized positive

/-- The last place of a value below `2 ^ 50` is at most an eighth of one. -/
theorem eight_mul_two_pow_scale_le (small : value.steps < 2 ^ 50 * stepsPerOne) :
    8 * 2 ^ value.scale ≤ stepsPerOne := by
  have eighth : 8 * 2 ^ value.scale = 2 ^ (3 + value.scale) := (pow_add 2 3 _).symm
  have placed : 3 + value.scale ≤ 1074 := by
    rcases value.normal with unscaled | normal
    · omega
    · have power : Nat.pow 2 52 * 2 ^ value.scale = 2 ^ (52 + value.scale) := (pow_add ..).symm
      have large : 2 ^ (52 + value.scale) ≤ value.steps :=
        power ▸ Nat.mul_le_mul_right (2 ^ value.scale) normal
      rw [two_pow_mul_stepsPerOne] at small
      have below := (Nat.pow_lt_pow_iff_right (by decide)).1 (lt_of_le_of_lt large small)
      omega
  unfold stepsPerOne
  generalize 1074 = places at *
  rw [eighth]
  exact Nat.pow_le_pow_right (by decide) placed

/-- No decimal that rounds to a value, and has no finer place than values have, has fewer digits
than the shortest one. -/
theorem withinDigits_shortest_of_units (nonzero : value.isZero = false) {number : Scaled}
    {count : Nat} (placed : number.Placed) (several : 0 < count)
    (few : number.coefficient < 10 ^ count)
    (rounds : value.Rounds number.units unitsPerStep) (tie : Tie) :
    WithinDigits count (value.shortest tie).coefficient := by
  have whole : (-(number.exponent + exactPlaces)).toNat = 0 := by
    unfold Scaled.Placed at placed
    omega
  have unscaled : unitsPerStep * 10 ^ (-(number.exponent + exactPlaces)).toNat = unitsPerStep := by
    generalize unitsPerStep = unit
    rw [whole, pow_zero, Nat.mul_one]
  exact withinDigits_shortest_of_rounds nonzero several few (unscaled.symm ▸ rounds) tie

/-- An interval in which a decimal with places lies begins no higher than a tenth of the
coefficient. -/
theorem lowerEnd_le_of_places {number : Scaled} (places : number.exponent < 0)
    (rounds : value.Rounds number.units unitsPerStep) :
    10 * value.lowerEnd ≤ 4 * (number.coefficient * stepsPerOne) := by
  have lower := rounds.lower
  have tenth : 10 * 10 ^ (number.exponent + exactPlaces).toNat ≤ unitsPerStep * stepsPerOne := by
    rw [← ten_pow_exactPlaces, ← pow_succ']
    exact Nat.pow_le_pow_right (by decide) (by unfold exactPlaces; omega)
  refine Nat.le_of_mul_le_mul_right ?_ unitsPerStep_pos
  calc 10 * value.lowerEnd * unitsPerStep
    _ ≤ 10 * (4 * number.units) := by
      rw [Nat.mul_assoc]
      exact Nat.mul_le_mul_left 10 lower
    _ = 4 * (number.coefficient * (10 * 10 ^ (number.exponent + exactPlaces).toNat)) := by
      rw [Scaled.units]
      ring
    _ ≤ 4 * (number.coefficient * (unitsPerStep * stepsPerOne)) :=
      Nat.mul_le_mul_left 4 (Nat.mul_le_mul_left _ tenth)
    _ = 4 * (number.coefficient * stepsPerOne) * unitsPerStep := by ring

/-- The shortest decimal of an integer has no more digits than the integer. -/
theorem coefficient_shortest_lt (nonzero : value.isZero = false)
    (integral : value.isIntegral = true) (tie : Tie) :
    (value.shortest tie).coefficient < 10 * value.truncate.natAbs := by
  have exact := rounds_truncate integral
  generalize value.truncate.natAbs = n at *
  have digitCountPos : 0 < digitCount n := Nat.length_toDigits_pos
  have few : (value.shortest tie).coefficient < 10 ^ digitCount n :=
    (canonical_shortest nonzero tie).lt_of_withinDigits
      (withinDigits_shortest_of_units nonzero (by simp [Scaled.Placed]) digitCountPos
        (lt_pow_digitCount n) exact tie)
  have leading : 10 ^ (digitCount n - 1) ≤ n :=
    pow_le_of_lt_digitCount (coefficient_pos_of_rounds nonzero exact)
      (Nat.sub_one_lt (Nat.ne_of_gt digitCountPos))
  calc (value.shortest tie).coefficient
    _ < 10 ^ digitCount n := few
    _ = 10 * 10 ^ (digitCount n - 1) := by rw [← pow_succ', Nat.sub_add_cancel digitCountPos]
    _ ≤ 10 * n := Nat.mul_le_mul_left 10 leading

/-- An integer that is written exactly has a shortest decimal without places. -/
theorem exponent_shortest_nonneg (nonzero : value.isZero = false)
    (integral : value.isIntegral = true)
    (small : value.absLessThan exactIntegralBound = true) (tie : Tie) :
    0 ≤ (value.shortest tie).exponent := by
  by_contra fractional
  have whole : value.significand * 2 ^ value.scale = value.steps / stepsPerOne * stepsPerOne :=
    (Nat.div_mul_cancel (Nat.dvd_of_mod_eq_zero (beq_iff_eq.1 integral))).symm
  -- Less than ten times the integer in tenths stays a tenth below the integer, but the interval
  -- begins no more than half of a last place below it.
  have fewer := coefficient_shortest_lt nonzero integral tie
  have lowerEnd := lowerEnd_le_of_places (not_le.1 fractional) (value.rounds_shortest tie).2
  have close := value.le_lowerEnd 1
  have lastPlace : 8 * 2 ^ value.scale ≤ stepsPerOne := by
    refine eight_mul_two_pow_scale_le (lt_of_lt_of_le (of_decide_eq_true small) ?_)
    exact Nat.mul_le_mul_right _ (by decide)
  rw [natAbs_truncate] at fewer
  rw [Nat.mul_one, Nat.one_mul, Nat.mul_assoc, whole] at close
  have scaled := Nat.mul_le_mul_right stepsPerOne (Nat.succ_le_of_lt fewer)
  have unitPositive : 0 < 2 ^ value.scale := Nat.two_pow_pos _
  linarith

end Double

end PredictionMarket.Decimal
