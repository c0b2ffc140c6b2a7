import PredictionMarket.Json.Plain
import PredictionMarket.Proofs.Decimal.Literal
import PredictionMarket.Proofs.Decimal.ReadBack

/-!
# Plain decimals

The plain text of a binary64 value is a decimal literal, and its value is the value that was
written, whether it was written exactly or with the fewest digits that read back.
-/

namespace PredictionMarket

open Decimal
open Decimal.Double (exactPlaces unitsPerStep stepsPerOne)

namespace Decimal

/-- Positional notation either appends the zeros of a power of ten to the digits, or sets a
point among the digits, behind as many zeros as it takes to have one in front of the point. -/
theorem positionalText_cases {written : List Char} (nonempty : written ≠ []) (exponent : Int) :
    (∃ zeros : Nat, exponent = zeros ∧
      positionalText written exponent = written ++ List.replicate zeros '0') ∨
    ∃ zeros before behind, List.replicate zeros '0' ++ written = before ++ behind ∧
      (zeros = 0 ∨ before = ['0']) ∧ before ≠ [] ∧
      behind ≠ [] ∧ exponent = -(behind.length : Int) ∧
      positionalText written exponent = before ++ '.' :: behind := by
  have present : 0 < written.length := List.length_pos_iff.2 nonempty
  unfold positionalText
  dsimp only
  split
  · next whole => exact .inl ⟨exponent.toNat, by omega, rfl⟩
  · split
    · next fractional inside =>
      refine .inr ⟨0, _, _, (List.take_append_drop _ written).symm, .inl rfl, ?_, ?_, ?_, rfl⟩
      · exact List.ne_nil_of_length_pos (by rw [List.length_take]; omega)
      · exact List.ne_nil_of_length_pos (by rw [List.length_drop]; omega)
      · rw [List.length_drop]
        omega
    · next fractional outside =>
      refine .inr ⟨(-exponent).toNat - written.length + 1, ['0'],
        List.replicate ((-exponent).toNat - written.length) '0' ++ written, ?_, .inr rfl,
        List.cons_ne_nil _ _, List.append_ne_nil_of_right_ne_nil _ nonempty, ?_, rfl⟩
      · rw [List.replicate_succ, List.cons_append, List.singleton_append]
      · rw [List.length_append, List.length_replicate]
        omega

/-- Positional notation consists of digits and a point. -/
theorem mem_positionalText {n : Nat} {exponent : Int} {c : Char}
    (member : c ∈ positionalText (digits n) exponent) : c.isDigit = true ∨ c = '.' := by
  have shown := allDigits_digits n
  rcases positionalText_cases (digits_ne_nil n) exponent with
    ⟨zeros, -, written⟩ | ⟨zeros, before, behind, joined, -, -, -, -, written⟩
  · rw [written] at member
    exact .inl (shown.append (.replicate_zero zeros) c member)
  · have allDigits := (AllDigits.replicate_zero zeros).append shown
    rw [joined] at allDigits
    rw [written] at member
    rcases List.mem_append.1 member with inFront | pointed
    · exact .inl (allDigits c (List.mem_append_left _ inFront))
    · rcases List.mem_cons.1 pointed with point | fraction
      · exact .inr point
      · exact .inl (allDigits c (List.mem_append_right _ fraction))

/-- Positional notation is read as the decimal that is written. -/
theorem exists_ofText?_positionalText (number : Scaled) (placed : number.Placed) :
    ∃ literal, Literal.ofText? (positionalText (digits number.coefficient) number.exponent) =
        some literal ∧
      literal.scaled.Placed ∧ literal.scaled.units = number.units := by
  obtain ⟨coefficient, exponent⟩ := number
  have shown := allDigits_digits coefficient
  dsimp only
  rcases positionalText_cases (digits_ne_nil coefficient) exponent with
    ⟨zeros, rfl, written⟩ | ⟨zeros, before, behind, joined, -, nonempty, -, rfl, written⟩ <;>
    rw [written]
  · refine ⟨_, Literal.ofText?_digits (shown.append (.replicate_zero zeros))
      (List.append_ne_nil_of_left_ne_nil (digits_ne_nil coefficient) _), ?_, ?_⟩
    · simp [Scaled.Placed, Literal.scaled]
    · have places : ((zeros : Int) + exactPlaces).toNat = zeros + exactPlaces := by omega
      simp only [Scaled.units, Literal.scaled, List.append_nil, valueOf_append_replicate_zero,
        valueOf_digits, places, pow_add]
      simp [Nat.mul_assoc]
  · have allDigits := (AllDigits.replicate_zero zeros).append shown
    rw [joined] at allDigits
    have denoted : valueOf (before ++ behind) = coefficient := by
      rw [← joined, valueOf_replicate_zero_append, valueOf_digits]
    refine ⟨_, Literal.ofText?_pointed
      (allDigits.of_sublist (List.sublist_append_left _ _)) nonempty
      (allDigits.of_sublist (List.sublist_append_right _ _)), ?_⟩
    rw [Literal.scaled, denoted, Int.zero_sub]
    exact ⟨placed, rfl⟩

namespace Double

variable {value : Double}

/-- A value that is zero is the zero of its sign. -/
theorem eq_zero_of_isZero (isZero : value.isZero = true) :
    zero value.negative = value := by
  obtain ⟨negative, significand, scale, small, scaleSmall, normal⟩ := value
  have none : significand = 0 := beq_iff_eq.1 isZero
  subst none
  have unscaled : scale = 0 := normal.resolve_right (by decide)
  subst unscaled
  rfl

/-- What is left of a value when its fraction is cut off. -/
theorem natAbs_truncate (value : Double) :
    value.truncate.natAbs = value.steps / stepsPerOne := by
  unfold truncate
  dsimp only
  split
  · rw [Int.natAbs_neg, Int.natAbs_natCast]
  · rw [Int.natAbs_natCast]

/-- A value that is an integer rounds to that integer. -/
theorem rounds_truncate (integral : value.isIntegral = true) :
    value.Rounds (Scaled.units ⟨value.truncate.natAbs, 0⟩) unitsPerStep := by
  have whole : value.steps / stepsPerOne * stepsPerOne = value.steps :=
    Nat.div_mul_cancel (Nat.dvd_of_mod_eq_zero (beq_iff_eq.1 integral))
  have units : Scaled.units ⟨value.truncate.natAbs, 0⟩ = value.exactUnits := by
    rw [Scaled.units, Int.zero_add, Int.toNat_natCast, ten_pow_exactPlaces, natAbs_truncate,
      exactUnits_eq, Nat.mul_comm unitsPerStep, ← Nat.mul_assoc, whole]
  rw [units]
  exact value.rounds_exactUnits

/-- Zero is written exactly. -/
theorem isIntegral_of_isZero (isZero : value.isZero = true) :
    (value.isIntegral && value.absLessThan exactIntegralBound) = true := by
  rw [isZero_iff] at isZero
  have bound : 0 < exactIntegralBound * stepsPerOne :=
    Nat.mul_pos (by decide) stepsPerOne_pos
  simp [isIntegral, absLessThan, isZero, bound]

/-- A value that is not zero is written in full as a sign and the positional text of its shortest
decimal. -/
theorem text_plainNumeral (nonzero : value.isZero = false) :
    plainNumeral.text value = (if value.negative then ['-'] else []) ++
      positionalText (digits (value.shortest .up).coefficient) (value.shortest .up).exponent := by
  have magnitude : plainNumeral.magnitude value =
      positionalText (digits (value.shortest .up).coefficient) (value.shortest .up).exponent := by
    simp [NumeralStyle.magnitude, plainNumeral]
  rw [← magnitude, NumeralStyle.text, nonzero]
  cases value.negative <;> rfl

/-- What is written in full is a sign and digits with at most a point, which are read as the
absolute value. -/
theorem exists_text_plainNumeral (nonzero : value.isZero = false) :
    ∃ text literal,
      plainNumeral.text value = (if value.negative then ['-'] else []) ++ text ∧
      (∀ c ∈ text, c.isDigit = true ∨ c = '.') ∧ Literal.ofText? text = some literal ∧
      literal.scaled.units = (value.shortest plainNumeral.tie).units ∧
      ofScaled? value.negative literal.scaled = some value := by
  obtain ⟨placed, rounds⟩ := value.rounds_shortest plainNumeral.tie
  obtain ⟨literal, read, literalPlaced, same⟩ := exists_ofText?_positionalText _ placed
  exact ⟨_, literal, text_plainNumeral nonzero, fun c => mem_positionalText, read, same,
    ofScaled?_of_rounds nonzero literalPlaced (same ▸ rounds) _⟩

/-- The plain text of a value is a sign and digits with at most a point, and what stands
behind the sign is read as the absolute value. -/
theorem exists_plainText (value : Double) :
    ∃ text literal, value.plainText = (if value.negative then ['-'] else []) ++ text ∧
      (∀ c ∈ text, c.isDigit = true ∨ c = '.') ∧ Literal.ofText? text = some literal ∧
      ofScaled? value.negative literal.scaled = some value := by
  unfold plainText
  split
  · next exact =>
    refine ⟨_, _, rfl, fun c member => .inl (allDigits_digits _ c member),
      Literal.ofText?_digits (allDigits_digits _) (digits_ne_nil _), ?_⟩
    have scaled : Literal.scaled ⟨false, digits value.truncate.natAbs, [], 0⟩ =
        ⟨value.truncate.natAbs, 0⟩ := by
      simp [Literal.scaled]
    rw [scaled]
    cases isZero : value.isZero with
    | true =>
      have none : value.truncate.natAbs = 0 := by
        rw [natAbs_truncate, isZero_iff.1 isZero, Nat.zero_div]
      rw [none, ofScaled?, if_pos (.inl rfl), eq_zero_of_isZero isZero]
    | false =>
      have placed : Scaled.Placed ⟨value.truncate.natAbs, 0⟩ := by simp [Scaled.Placed]
      exact ofScaled?_of_rounds isZero placed
        (rounds_truncate (Bool.and_eq_true_iff.1 exact).1) _
  · next inFull =>
    have nonzero : value.isZero = false :=
      Bool.eq_false_iff.2 fun isZero => inFull (isIntegral_of_isZero isZero)
    obtain ⟨text, literal, written, plain, read, -, isValue⟩ := exists_text_plainNumeral nonzero
    exact ⟨text, literal, written, plain, read, isValue⟩

/-- A decimal without places that has few digits is an integer. -/
theorem ofScaled?_whole {n : Nat} (few : digitCount n ≤ 310) (negative : Bool) :
    ofScaled? negative ⟨n, 0⟩ = ofQuotient? negative n 1 := by
  rcases Nat.eq_zero_or_pos n with rfl | positive
  · have rounds : (zero negative).Rounds (0 * stepsPerOne) 1 := by
      rw [Nat.zero_mul]
      cases negative <;> exact ⟨by decide, Nat.zero_le _, fun odd => by cases odd⟩
    rw [ofScaled?, if_pos (.inl rfl), ofQuotient?_of_rounds Nat.one_pos rounds]
    rfl
  · have inRange : ¬ (n = 0 ∨ (digitCount n : Int) + 0 < -330) := by omega
    have notHuge : ¬ (310 : Int) < (digitCount n : Int) + 0 := by omega
    rw [ofScaled?]
    dsimp only
    rw [if_neg inRange, if_neg notHuge, if_pos (Int.le_refl 0)]
    simp

end Double

/-- The text of an integer is a sign and digits. -/
theorem intText_eq (n : Int) :
    intText n = (if decide (n < 0) then ['-'] else []) ++ digits n.natAbs := by
  unfold intText
  by_cases negative : n < 0 <;> simp [negative]

end Decimal

end PredictionMarket
