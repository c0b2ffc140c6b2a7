import PredictionMarket.Proofs.Decimal.Grouping

/-!
# Grouped decimals keep the order of values

The reals that round to one value are separated from those that round to another, so shortest
decimals are ordered like their values (`toRat_shortest_lt`). Rounding to some places keeps the
order too (`IsRounding.mono`), and a value that would round to zero is written in full as no more
than one unit of the last place. So the numbers that grouped texts denote are ordered like the
values, and each has the sign of its value (`grouped_preserves_order`).
-/

namespace PredictionMarket.Decimal

open Double (exactPlaces)

/-- A decimal with no place behind the last one that values have, in units of that place. -/
theorem Scaled.toRat_eq_units {number : Scaled} (placed : number.Placed) :
    number.toRat = number.units / 10 ^ exactPlaces := by
  unfold Placed at placed
  unfold toRat units
  generalize exactPlaces = places at *
  obtain ⟨zeros, isPlace⟩ := Int.eq_ofNat_of_zero_le (by omega : 0 ≤ number.exponent + places)
  have exponent : number.exponent = zeros - places := by omega
  rw [isPlace, exponent, Int.toNat_natCast, zpow_sub₀ (by norm_num), zpow_natCast, zpow_natCast,
    Nat.cast_mul, Nat.cast_pow, Nat.cast_ofNat, mul_div_assoc]

namespace Double

/-- The absolute value. -/
def magnitude (value : Double) : Double := { value with negative := false }

/-- The value with the other sign. -/
def negated (value : Double) : Double := { value with negative := !value.negative }

variable {value other : Double} {stepCount denominator places : Nat} {tie : Tie}

/-- The other sign turns the number of a value around. -/
theorem toRat_negated (value : Double) : value.negated.toRat = -value.toRat := by
  change signed (!value.negative) (value.steps / stepsPerOne) = _
  rw [toRat]
  cases value.negative
  · rfl
  · exact (neg_neg _).symm

/-- Values are compared by their steps. -/
theorem steps_le_iff : value.steps ≤ other.steps ↔ |value.toRat| ≤ |other.toRat| := by
  rw [abs_toRat, abs_toRat, div_le_div_iff_of_pos_right stepsPerOne_pos_rat, Nat.cast_le]

section Intervals

/-- Values to which one quotient rounds differ in their sign only. -/
theorem Rounds.magnitude_eq (first : value.Rounds stepCount denominator)
    (second : other.Rounds stepCount denominator) (positive : 0 < denominator) :
    value.magnitude = other.magnitude := by
  have scaledPositive : 0 < denominator * stepsPerOne := Nat.mul_pos positive stepsPerOne_pos
  have converted : ∀ {one : Double}, one.Rounds stepCount denominator →
      ofQuotient? false stepCount (denominator * stepsPerOne) = some one.magnitude :=
    fun rounds => ofQuotient?_of_rounds scaledPositive
      (rounds.congr positive scaledPositive (by ring)) false
  exact Option.some.inj ((converted first).symm.trans (converted second))

/-- A value rounds to itself. -/
theorem rounds_steps (value : Double) (positive : 0 < denominator) :
    value.Rounds (value.steps * denominator) denominator := by
  refine value.rounds_exactUnits.congr unitsPerStep_pos positive ?_
  rw [exactUnits_eq]
  ring

/-- The steps of a value tell all but its sign. -/
theorem magnitude_eq_of_steps_eq (same : value.steps = other.steps) :
    value.magnitude = other.magnitude := by
  have rounds := other.rounds_steps Nat.one_pos
  rw [← same] at rounds
  exact (value.rounds_steps Nat.one_pos).magnitude_eq rounds Nat.one_pos

/-- A quotient that rounds to a smaller value is smaller. -/
theorem Rounds.lt_of_steps_lt {greater : Nat} (first : value.Rounds stepCount denominator)
    (second : other.Rounds greater denominator) (positive : 0 < denominator)
    (smaller : value.steps < other.steps) : stepCount < greater := by
  have apart : value.magnitude ≠ other.magnitude := fun same =>
    smaller.ne (show value.magnitude.steps = other.magnitude.steps by rw [same])
  by_contra notSmaller
  have reversed : greater ≤ stepCount := not_lt.1 notSmaller
  -- In the wrong order, what stands between the two would round to both values.
  rcases Nat.le_total greater (value.steps * denominator) with below | above
  · have both : other.Rounds (value.steps * denominator) denominator :=
      second.between (other.rounds_steps positive) positive positive positive
        (Nat.mul_le_mul_right _ below)
        (Nat.mul_le_mul_right _ (Nat.mul_le_mul_right _ smaller.le))
    exact apart ((value.rounds_steps positive).magnitude_eq both positive)
  · have both : value.Rounds greater denominator :=
      (value.rounds_steps positive).between first positive positive positive
        (Nat.mul_le_mul_right _ above) (Nat.mul_le_mul_right _ reversed)
    exact apart (both.magnitude_eq second positive)

end Intervals

section Shortest

/-- The units of a shortest decimal make its number. -/
theorem toRat_shortest (value : Double) (tie : Tie) :
    (value.shortest tie).toRat = (value.shortest tie).units / 10 ^ exactPlaces :=
  Scaled.toRat_eq_units (value.rounds_shortest tie).1

/-- There are units in one. -/
theorem ten_pow_exactPlaces_pos : (0 : ℚ) < 10 ^ exactPlaces := by positivity

/-- Shortest decimals are ordered like their values. -/
theorem toRat_shortest_lt (smaller : value.steps < other.steps) :
    (value.shortest tie).toRat < (other.shortest tie).toRat := by
  have units := (value.rounds_shortest tie).2.lt_of_steps_lt (other.rounds_shortest tie).2
    unitsPerStep_pos smaller
  rw [toRat_shortest, toRat_shortest, div_lt_div_iff_of_pos_right ten_pow_exactPlaces_pos]
  exact Nat.cast_lt.2 units

/-- The shortest decimal of a value that is not zero is not zero. -/
theorem toRat_shortest_pos (nonzero : value.isZero = false) (tie : Tie) :
    0 < (value.shortest tie).toRat := by
  have positive := coefficient_pos_of_rounds nonzero (value.rounds_shortest tie).2
  exact mul_pos (Nat.cast_pos.2 positive) (zpow_pos (by norm_num) _)

/-- A shortest decimal is at most twice its value. -/
theorem toRat_shortest_le (nonzero : value.isZero = false) (tie : Tie) :
    (value.shortest tie).toRat ≤ 2 * |value.toRat| := by
  have significand : 0 < value.significand := by
    rw [isZero, beq_eq_false_iff_ne] at nonzero
    exact Nat.pos_of_ne_zero nonzero
  have lastPlace : Nat.pow 2 value.scale ≤ value.steps := Nat.le_mul_of_pos_left _ significand
  have ends : value.upperEnd ≤ 8 * value.steps := by
    unfold upperEnd
    omega
  have units : (value.shortest tie).units ≤ 2 * value.steps * unitsPerStep := by
    have upper := (value.rounds_shortest tie).2.upper
    have bound := Nat.mul_le_mul_right unitsPerStep ends
    linarith
  have exact : (2 * |value.toRat|) * 10 ^ exactPlaces = 2 * value.steps * unitsPerStep := by
    have power : (10 : ℚ) ^ exactPlaces = unitsPerStep * stepsPerOne := by
      exact_mod_cast ten_pow_exactPlaces
    have positive := stepsPerOne_pos_rat
    rw [abs_toRat, power]
    generalize (stepsPerOne : ℚ) = one at positive ⊢
    generalize (unitsPerStep : ℚ) = unit
    rw [mul_comm unit one, ← mul_assoc, mul_assoc 2, div_mul_cancel₀ _ positive.ne']
  rw [toRat_shortest, div_le_iff₀ ten_pow_exactPlaces_pos, exact]
  exact_mod_cast units

/-- The text in full of a value that is not zero denotes its shortest decimal. -/
theorem denoted?_plainNumeral (nonzero : value.isZero = false) :
    denoted? (plainNumeral.text value) =
      some (signed (decide (value.toRat < 0)) (value.shortest .up).toRat) := by
  obtain ⟨placed, -⟩ := value.rounds_shortest .up
  obtain ⟨literal, read, literalPlaced, same⟩ := exists_ofText?_positionalText _ placed
  obtain ⟨plain, signedRead⟩ := Literal.ofText?_sign_append value.negative
    (fun _ member => mem_positionalText member) read
  rw [← text_plainNumeral nonzero] at plain signedRead
  have bare : withoutCommas (plainNumeral.text value) = plainNumeral.text value := by
    refine List.filter_eq_self.2 fun c member => decide_eq_true ?_
    rcases plain c member with digit | rfl | rfl
    · exact ne_comma_of_isDigit digit
    · decide
    · decide
  have negative : decide (value.toRat < 0) = value.negative := by
    rw [Bool.eq_iff_iff, decide_eq_true_iff, toRat_neg_iff, nonzero]
    exact and_iff_left rfl
  have number : literal.scaled.toRat = (value.shortest .up).toRat := by
    rw [Scaled.toRat_eq_units literalPlaced, Scaled.toRat_eq_units placed, same]
  rw [denoted?, bare, signedRead, negative, ← number]
  rfl

end Shortest

section Shown

/-- The absolute value that a grouped text denotes: the rounded value, or the shortest decimal of
a value that would vanish. -/
def shown (value : Double) (places : Nat) : ℚ :=
  if value.roundedUnits places = 0 ∧ value.isZero = false then (value.shortest .up).toRat
  else value.roundedUnits places / 10 ^ places

/-- What is shown of a value does not depend on its sign. -/
theorem shown_magnitude (value : Double) (places : Nat) :
    value.magnitude.shown places = value.shown places := rfl

/-- A value that does not vanish is shown as its rounded units. -/
theorem shown_of_units (units : value.roundedUnits places ≠ 0) :
    value.shown places = value.roundedUnits places / 10 ^ places :=
  if_neg fun vanishes => units vanishes.1

/-- Zero is shown as zero. -/
theorem shown_of_isZero (zero : value.isZero = true) (places : Nat) :
    value.shown places = 0 := by
  simp [shown, zero, roundedUnits_of_isZero zero]

/-- A value that is not zero is not shown as zero. -/
theorem shown_pos (nonzero : value.isZero = false) (places : Nat) : 0 < value.shown places := by
  by_cases vanishes : value.roundedUnits places = 0
  · rw [shown, if_pos ⟨vanishes, nonzero⟩]
    exact toRat_shortest_pos nonzero .up
  · rw [shown_of_units vanishes]
    have units : (0 : ℚ) < value.roundedUnits places :=
      Nat.cast_pos.2 (Nat.pos_of_ne_zero vanishes)
    positivity

/-- A value that would vanish is shown as at most one unit of the last place. -/
theorem shown_le_of_vanishing (vanishes : value.roundedUnits places = 0)
    (nonzero : value.isZero = false) : value.shown places ≤ 1 / 10 ^ places := by
  have power : (0 : ℚ) < 10 ^ places := by positivity
  have half := (value.isRounding_roundedUnits places).within_half
  rw [vanishes, Nat.cast_zero, sub_zero] at half
  have small := le_trans (le_abs_self _) half
  have twice := mul_le_mul_of_nonneg_right (toRat_shortest_le nonzero .up) power.le
  rw [shown, if_pos ⟨vanishes, nonzero⟩, le_div_iff₀ power]
  linarith

/-- What is shown is an absolute value. -/
theorem shown_nonneg (value : Double) (places : Nat) : 0 ≤ value.shown places := by
  cases zero : value.isZero with
  | true => exact (shown_of_isZero zero places).ge
  | false => exact (shown_pos zero places).le

/-- Rounding to places keeps the order of absolute values. -/
theorem roundedUnits_mono (ordered : value.steps ≤ other.steps) (places : Nat) :
    value.roundedUnits places ≤ other.roundedUnits places :=
  (value.isRounding_roundedUnits places).mono (other.isRounding_roundedUnits places)
    (mul_le_mul_of_nonneg_right (steps_le_iff.1 ordered) (by positivity))

/-- What is shown is ordered like the absolute values. -/
theorem shown_mono (ordered : value.steps ≤ other.steps) (places : Nat) :
    value.shown places ≤ other.shown places := by
  rcases ordered.eq_or_lt with same | smaller
  · rw [← value.shown_magnitude, magnitude_eq_of_steps_eq same, shown_magnitude]
  have units := roundedUnits_mono ordered places
  have power : (0 : ℚ) < 10 ^ places := by positivity
  have otherNonzero : other.isZero = false :=
    Bool.eq_false_iff.2 fun zero => by
      rw [isZero_iff.1 zero] at smaller
      exact Nat.not_lt_zero _ smaller
  cases zero : value.isZero with
  | true =>
    rw [shown_of_isZero zero]
    exact (shown_pos otherNonzero places).le
  | false =>
    by_cases otherVanishes : other.roundedUnits places = 0
    · have vanishes : value.roundedUnits places = 0 :=
        Nat.eq_zero_of_le_zero (otherVanishes ▸ units)
      rw [shown, shown, if_pos ⟨vanishes, zero⟩, if_pos ⟨otherVanishes, otherNonzero⟩]
      exact (toRat_shortest_lt smaller).le
    · rw [shown_of_units otherVanishes]
      by_cases vanishes : value.roundedUnits places = 0
      · -- Of the two printers the one for values in full stays below the first unit.
        have atLeast : (1 : ℚ) ≤ other.roundedUnits places :=
          Nat.one_le_cast.2 (Nat.pos_of_ne_zero otherVanishes)
        exact (shown_le_of_vanishing vanishes zero).trans
          (div_le_div_of_nonneg_right atLeast power.le)
      · rw [shown_of_units vanishes]
        exact div_le_div_of_nonneg_right (Nat.cast_le.2 units) power.le

/-- A grouped text denotes what is shown, with the sign of the value. -/
theorem denoted?_grouped (value : Double) (places : Nat) :
    denoted? (value.grouped places) =
      some (signed (decide (value.toRat < 0)) (value.shown places)) := by
  by_cases vanishes : value.roundedUnits places = 0 ∧ value.isZero = false
  · rw [grouped_of_vanishing vanishes.1 vanishes.2, denoted?_plainNumeral vanishes.2, shown,
      if_pos vanishes]
  · have visible : value.roundedUnits places = 0 → value.isZero = true := fun units =>
      Bool.of_not_eq_false fun nonzero => vanishes ⟨units, nonzero⟩
    obtain ⟨whole, fraction, isGrouped, isFraction, text⟩ := exists_isGrouped visible
    have denoted := isGrouped.denoted?_eq (decide (value.toRat < 0)) isFraction
    simp only [decide_eq_true_eq] at denoted
    rw [text, denoted, shown, if_neg vanishes]

/-- A value below zero is shown with a minus. -/
theorem signed_shown_of_neg (below : value.toRat < 0) (places : Nat) :
    signed (decide (value.toRat < 0)) (value.shown places) = -value.shown places := by
  rw [decide_eq_true below]
  rfl

/-- Any other value is shown without. -/
theorem signed_shown_of_nonneg (above : 0 ≤ value.toRat) (places : Nat) :
    signed (decide (value.toRat < 0)) (value.shown places) = value.shown places := by
  generalize value.shown places = magnitude
  rw [decide_eq_false above.not_gt]
  rfl

/-- A value is shown below zero exactly when it is. -/
theorem signed_shown_neg_iff (value : Double) (places : Nat) :
    signed (decide (value.toRat < 0)) (value.shown places) < 0 ↔ value.toRat < 0 := by
  rw [signed_neg_iff (value.shown_nonneg places), decide_eq_true_iff]
  refine and_iff_left_of_imp fun below => ?_
  exact (shown_pos (toRat_neg_iff.1 below).2 places).ne'

/-- A value is shown above zero exactly when it is. -/
theorem signed_shown_pos_iff (value : Double) (places : Nat) :
    0 < signed (decide (value.toRat < 0)) (value.shown places) ↔ 0 < value.toRat := by
  rcases lt_trichotomy value.toRat 0 with below | zero | above
  · exact iff_of_false ((signed_shown_neg_iff value places).2 below).not_gt below.not_gt
  · rw [signed_shown_of_nonneg zero.ge, shown_of_isZero (toRat_eq_zero_iff.1 zero), zero]
  · rw [signed_shown_of_nonneg above.le]
    refine iff_of_true (shown_pos (Bool.eq_false_iff.2 fun zero => ?_) places) above
    exact above.ne' (toRat_eq_zero_iff.2 zero)

/-- What is shown with its sign is ordered like the values. -/
theorem signed_shown_mono (ordered : value.toRat ≤ other.toRat) (places : Nat) :
    signed (decide (value.toRat < 0)) (value.shown places) ≤
      signed (decide (other.toRat < 0)) (other.shown places) := by
  rcases lt_or_ge value.toRat 0 with below | above
  · rw [signed_shown_of_neg below]
    rcases lt_or_ge other.toRat 0 with otherBelow | otherAbove
    · rw [signed_shown_of_neg otherBelow, neg_le_neg_iff]
      refine shown_mono (steps_le_iff.2 ?_) places
      rwa [abs_of_neg below, abs_of_neg otherBelow, neg_le_neg_iff]
    · rw [signed_shown_of_nonneg otherAbove]
      exact (neg_nonpos.2 (value.shown_nonneg places)).trans (other.shown_nonneg places)
  · have otherAbove := above.trans ordered
    rw [signed_shown_of_nonneg above, signed_shown_of_nonneg otherAbove]
    refine shown_mono (steps_le_iff.2 ?_) places
    rwa [abs_of_nonneg above, abs_of_nonneg otherAbove]

/-- The grouped text of a value below zero is that of its absolute value behind a minus. -/
theorem grouped_negated (positive : 0 < value.toRat) (places : Nat) :
    value.negated.grouped places = '-' :: value.grouped places := by
  have nonzero : value.isZero = false :=
    Bool.eq_false_iff.2 fun zero => positive.ne' (toRat_eq_zero_iff.2 zero)
  have unsigned : value.negative = false := by
    refine Bool.eq_false_iff.2 fun negative => positive.not_gt ?_
    exact toRat_neg_iff.2 ⟨negative, nonzero⟩
  have signed : value.negated.negative = true := by rw [negated, unsigned]; rfl
  have sameUnits : value.negated.roundedUnits places = value.roundedUnits places := rfl
  have sameZero : value.negated.isZero = value.isZero := rfl
  by_cases vanishes : value.roundedUnits places = 0
  · have text := text_plainNumeral (sameZero.trans nonzero)
    rw [signed] at text
    rw [grouped_of_vanishing (sameUnits.trans vanishes) (sameZero.trans nonzero),
      grouped_of_vanishing vanishes nonzero, text_plainNumeral nonzero, unsigned, text]
    rfl
  · have units : (value.roundedUnits places != 0) = true := bne_iff_ne.2 vanishes
    simp [grouped, sameUnits, vanishes, signed, unsigned]

end Shown

/-- Grouped texts keep the order of values, with every number of places, also where one of two
values would vanish and is written in full. A value above zero is shown above zero and one below
zero below it, and the grouped text of the negated value has a minus in front. -/
theorem grouped_preserves_order (value other : Double) (places : Nat)
    (ordered : value.toRat ≤ other.toRat) :
    ∃ lesser greater, denoted? (value.grouped places) = some lesser ∧
      denoted? (other.grouped places) = some greater ∧ lesser ≤ greater ∧
      (0 < value.toRat ↔ 0 < lesser) ∧ (value.toRat < 0 ↔ lesser < 0) ∧
      (0 < value.toRat → value.negated.toRat = -value.toRat ∧
        value.negated.grouped places = '-' :: value.grouped places) :=
  ⟨_, _, value.denoted?_grouped places, other.denoted?_grouped places,
    signed_shown_mono ordered places, (value.signed_shown_pos_iff places).symm,
    (value.signed_shown_neg_iff places).symm,
    fun positive => ⟨value.toRat_negated, grouped_negated positive places⟩⟩

/-- The value one half, which is as near to zero as to one. -/
def half : Double := ⟨false, Nat.pow 2 52, 1021, by decide, by decide, .inr (by decide)⟩

/-- The value next to one half. -/
def aboveHalf : Double := ⟨false, Nat.pow 2 52 + 1, 1021, by decide, by decide, .inr (by decide)⟩

/-- Without places, one half would vanish and is written in full, and the next value is written
as one. -/
theorem grouped_half_lt_aboveHalf :
    half.toRat ≤ aboveHalf.toRat ∧ half.grouped 0 = ['0', '.', '5'] ∧
      aboveHalf.grouped 0 = ['1'] ∧
      ∃ lesser greater, denoted? (half.grouped 0) = some lesser ∧
        denoted? (aboveHalf.grouped 0) = some greater ∧ 0 < lesser ∧ lesser ≤ greater ∧
        half.negated.grouped 0 = ['-', '0', '.', '5'] := by
  have positive : 0 < half.toRat := by
    have steps : (0 : ℚ) < half.steps := Nat.cast_pos.2 (by decide +kernel)
    exact div_pos steps stepsPerOne_pos_rat
  have ordered : half.toRat ≤ aboveHalf.toRat :=
    div_le_div_of_nonneg_right (Nat.cast_le.2 (by decide +kernel)) stepsPerOne_pos_rat.le
  have written : half.grouped 0 = ['0', '.', '5'] := by decide +kernel
  have rounded : aboveHalf.grouped 0 = ['1'] := by decide +kernel
  obtain ⟨lesser, greater, isLesser, isGreater, mono, signs, -, turned⟩ :=
    grouped_preserves_order half aboveHalf 0 ordered
  refine ⟨ordered, written, rounded, lesser, greater, isLesser, isGreater, signs.1 positive, mono,
    ?_⟩
  rw [(turned positive).2, written]

end Double

end PredictionMarket.Decimal
