import PredictionMarket.Proofs.Decimal.Grouping

/-!
# Integers as binary64 values

The value nearest to an integer is an integer itself, and it is the same integer exactly when
that one is a significand of 53 bits times a power of two. The grouped text of an integral value
has no fraction, whatever the number of places; without its commas it is the decimal text of the
integer.
-/

namespace PredictionMarket.Decimal

/-- The digits of a number tell which number it is. -/
theorem digits_injective {m n : Nat} (same : digits m = digits n) : m = n := by
  rw [← valueOf_digits m, same, valueOf_digits]

/-- The decimal text of an integer tells which integer it is. -/
theorem intText_injective {m n : Int} (same : intText m = intText n) : m = n := by
  have noMinus : ∀ (k : Nat) (rest : List Char), digits k ≠ '-' :: rest := by
    intro k rest shape
    cases allDigits_digits k '-' (shape ▸ List.mem_cons_self)
  unfold intText at same
  split at same <;> split at same
  · have := digits_injective (List.cons_inj_right _ |>.1 same)
    omega
  · exact absurd same.symm (noMinus _ _)
  · exact absurd same (noMinus _ _)
  · have := digits_injective same
    omega

namespace Double

variable {value : Double} {negative : Bool} {n whole places : Nat}

/-- One is a power of two of smallest steps. -/
theorem exists_stepsPerOne : ∃ places, stepsPerOne = 2 ^ places := by
  unfold stepsPerOne
  generalize 1074 = places
  exact ⟨places, rfl⟩

/-- The steps of the value nearest to an integer are those of the integer, rounded to a multiple
of the power of two that leaves 53 bits of them. -/
theorem steps_of_ofQuotient? (converted : ofQuotient? negative n 1 = some value) :
    ∃ scale, (scale = 0 ∨ 2 ^ (52 + scale) ≤ n * stepsPerOne) ∧ value.negative = negative ∧
      value.steps = roundDiv .toEven (n * stepsPerOne) (2 ^ scale) * 2 ^ scale := by
  rw [ofQuotient?, Nat.one_mul] at converted
  generalize n * stepsPerOne = stepCount at *
  generalize scaled : (stepCount / 1).log2 - 52 = scale at *
  obtain ⟨-, onScale⟩ := bounds_of_scale Nat.one_pos scaled
  rw [Nat.one_mul, ← pow_add] at onScale
  have power : ∀ exponent, Nat.pow 2 exponent = 2 ^ exponent := fun _ => rfl
  refine ⟨scale, onScale, ?_⟩
  rw [power scale] at converted
  split at converted
  · next carried =>
    obtain ⟨isNegative, isSignificand, isScale⟩ := eq_of_ofParts? converted
    refine ⟨isNegative, ?_⟩
    rw [carried, steps, isSignificand, isScale, power, power, power, ← pow_add, ← pow_add,
      Nat.add_comm scale 1, ← Nat.add_assoc]
  · obtain ⟨isNegative, isSignificand, isScale⟩ := eq_of_ofParts? converted
    exact ⟨isNegative, by rw [steps, isSignificand, isScale, power]⟩

/-- A multiple of a unit is not changed by rounding to the unit. -/
theorem roundDiv_mul_of_dvd {stepCount unit : Nat} (positive : 0 < unit)
    (divides : unit ∣ stepCount) : roundDiv .toEven stepCount unit * unit = stepCount := by
  obtain ⟨quotient, rfl⟩ := divides
  rw [Nat.mul_comm unit, roundDiv_mul_self .toEven quotient unit positive]

/-- The value nearest to an integer is an integer. -/
theorem exists_integral (converted : ofQuotient? negative n 1 = some value) :
    ∃ whole, value.steps = whole * stepsPerOne := by
  obtain ⟨scale, -, -, isSteps⟩ := steps_of_ofQuotient? converted
  obtain ⟨places, one⟩ := exists_stepsPerOne
  rcases Nat.le_total scale places with small | large
  · refine ⟨n, isSteps.trans (roundDiv_mul_of_dvd (Nat.two_pow_pos _) ?_)⟩
    rw [one]
    exact (pow_dvd_pow 2 small).mul_left n
  · obtain ⟨more, rfl⟩ := Nat.exists_eq_add_of_le large
    refine ⟨roundDiv .toEven (n * stepsPerOne) (2 ^ (places + more)) * 2 ^ more, ?_⟩
    rw [isSteps, Nat.mul_assoc, ← one.symm, pow_add, Nat.mul_comm (2 ^ more), ← one]

/-- The value nearest to an integer is that integer exactly when the integer is a significand
times a power of two. -/
theorem steps_eq_iff (converted : ofQuotient? negative n 1 = some value) :
    value.steps = n * stepsPerOne ↔ ∃ significand exponent,
      significand < 2 ^ 53 ∧ n = significand * 2 ^ exponent := by
  obtain ⟨places, one⟩ := exists_stepsPerOne
  constructor
  · intro exact
    change value.significand * 2 ^ value.scale = _ at exact
    rw [one] at exact
    rcases Nat.le_total places value.scale with large | small
    · obtain ⟨more, isScale⟩ := Nat.exists_eq_add_of_le large
      refine ⟨value.significand, more, value.significand_lt, ?_⟩
      rw [isScale, pow_add, Nat.mul_left_comm, Nat.mul_comm] at exact
      exact (Nat.eq_of_mul_eq_mul_right (Nat.two_pow_pos places) exact).symm
    · obtain ⟨more, rfl⟩ := Nat.exists_eq_add_of_le small
      rw [pow_add, Nat.mul_comm, Nat.mul_left_comm] at exact
      have isSignificand := Nat.eq_of_mul_eq_mul_left (Nat.two_pow_pos value.scale) exact
      refine ⟨n, 0, lt_of_le_of_lt ?_ value.significand_lt, (Nat.mul_one n).symm⟩
      rw [isSignificand]
      exact Nat.le_mul_of_pos_right n (Nat.two_pow_pos more)
  · rintro ⟨significand, exponent, small, rfl⟩
    obtain ⟨scale, onScale, -, isSteps⟩ := steps_of_ofQuotient? converted
    refine isSteps.trans (roundDiv_mul_of_dvd (Nat.two_pow_pos _) ?_)
    have product : significand * 2 ^ exponent * stepsPerOne =
        significand * 2 ^ (exponent + places) := by rw [one, Nat.mul_assoc, ← pow_add]
    rw [product] at onScale ⊢
    refine (pow_dvd_pow 2 ?_).mul_left significand
    rcases onScale with rfl | onScale
    · exact Nat.zero_le _
    · have below : significand * 2 ^ (exponent + places) < 2 ^ (53 + (exponent + places)) := by
        rw [pow_add 2 53]
        exact Nat.mul_lt_mul_of_pos_right small (Nat.two_pow_pos _)
      have := (Nat.pow_lt_pow_iff_right Nat.one_lt_two).1 (lt_of_le_of_lt onScale below)
      omega

/-- An integral value is grouped like the integer that it is. -/
theorem withoutCommas_grouped (isWhole : value.steps = whole * stepsPerOne) (places : Nat) :
    withoutCommas (value.grouped places) = intText value.truncate := by
  have units : value.roundedUnits places = whole * 10 ^ places := by
    have power : Nat.pow 10 places = 10 ^ places := rfl
    rw [roundedUnits, isWhole, Nat.mul_right_comm, power]
    exact roundDiv_mul_self .toEven _ _ stepsPerOne_pos
  have shown : value.roundedUnits places = 0 → value.isZero = true := by
    intro none
    rw [units] at none
    have noWhole := (Nat.mul_eq_zero.1 none).resolve_right (Nat.pow_pos (by decide)).ne'
    rw [isZero_iff, isWhole, noWhole, Nat.zero_mul]
  have cut : value.truncate = if value.negative then -(whole : Int) else whole := by
    rw [truncate, isWhole, Nat.mul_div_cancel _ stepsPerOne_pos]
  obtain ⟨shownWhole, fraction, isGrouped, -, text⟩ := exists_isGrouped shown
  rw [units] at isGrouped
  have bare : fraction = [] := isGrouped.bare_iff.2 (Nat.dvd_mul_left _ _)
  have integer := isGrouped.integer
  rw [Nat.mul_div_cancel _ (Nat.pow_pos (by decide))] at integer
  rw [text, bare, pointed, List.isEmpty_nil, if_pos rfl, List.append_nil, withoutCommas_append,
    integer, intText_eq, cut]
  have isZero : value.isZero = true ↔ whole = 0 := by
    rw [isZero_iff, isWhole, Nat.mul_eq_zero, or_iff_left stepsPerOne_pos.ne']
  have below : value.toRat < 0 ↔ (if value.negative then -(whole : Int) else whole) < 0 := by
    rw [toRat_neg_iff, ← Bool.not_eq_true value.isZero, isZero]
    split
    · next negative => simp [negative, Nat.pos_iff_ne_zero]
    · next positive => simp [positive]
  have magnitude : (if value.negative then -(whole : Int) else whole).natAbs = whole := by
    split <;> simp
  simp only [below, magnitude, decide_eq_true_eq, withoutCommas_sign]

/-- The value nearest to an integer is cut off to the integer exactly when it is that integer. -/
theorem truncate_eq_iff {integer : Int} (converted : ofInt? integer = some value) :
    value.truncate = integer ↔ ∃ significand exponent,
      significand < 2 ^ 53 ∧ integer.natAbs = significand * 2 ^ exponent := by
  rw [ofInt?] at converted
  obtain ⟨whole, isWhole⟩ := exists_integral converted
  obtain ⟨-, -, isNegative, -⟩ := steps_of_ofQuotient? converted
  rw [← steps_eq_iff converted, isWhole, Nat.mul_left_inj stepsPerOne_pos.ne', truncate, isWhole,
    Nat.mul_div_cancel _ stepsPerOne_pos, isNegative]
  simp only [decide_eq_true_eq]
  split <;> omega

end Double

end PredictionMarket.Decimal
