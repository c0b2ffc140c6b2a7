import Mathlib.Tactic.Linarith
import Mathlib.Tactic.Ring
import PredictionMarket.Decimal.Shortest

/-!
# The nearest binary64 value

The reals that round to a value form an interval around it. A quotient inside that interval
is converted to the value (`ofQuotient?_of_rounds`), and every quotient below `2 ^ 1023` is
converted to some value (`exists_ofQuotient?`).
-/

namespace PredictionMarket.Decimal

section Round

variable {tie : Tie} {numerator denominator bound : Nat}

/-- A quotient that is no less than an integer does not round below it. -/
theorem le_roundDiv (positive : 0 < denominator) (above : bound * denominator ≤ numerator) :
    bound ≤ roundDiv tie numerator denominator := by
  have least : bound ≤ numerator / denominator := (Nat.le_div_iff_mul_le positive).2 above
  have settled := (tie.settle_bounds (numerator / denominator)).1
  unfold roundDiv
  dsimp only
  split
  · exact least
  · split <;> omega

/-- A quotient that is no greater than an integer does not round above it. -/
theorem roundDiv_le (positive : 0 < denominator) (below : numerator ≤ bound * denominator) :
    roundDiv tie numerator denominator ≤ bound := by
  have lower := (roundDiv_within_half tie numerator denominator positive).2
  by_contra above
  -- Only the integer itself could round upwards, but nothing is left of it to round.
  have exact : numerator = bound * denominator := by nlinarith
  rw [exact, roundDiv_mul_self tie bound denominator positive] at above
  exact above (Nat.le_refl _)

/-- A quotient within half of an integer rounds to it; one that lies halfway does so if the
integer is even. -/
theorem roundDiv_eq_of_within {nearest : Nat} (positive : 0 < denominator)
    (lower : 2 * nearest * denominator ≤ 2 * numerator + denominator)
    (upper : 2 * numerator ≤ (2 * nearest + 1) * denominator)
    (inside : nearest % 2 = 1 → 2 * nearest * denominator < 2 * numerator + denominator ∧
      2 * numerator < (2 * nearest + 1) * denominator) :
    roundDiv .toEven numerator denominator = nearest := by
  have split := Nat.div_add_mod numerator denominator
  have small := Nat.mod_lt numerator positive
  unfold roundDiv
  dsimp only [Tie.settle]
  generalize numerator / denominator = quotient at *
  generalize numerator % denominator = remainder at *
  subst split
  have close : quotient = nearest ∨ quotient + 1 = nearest := by
    have atMost : quotient ≤ nearest := by
      by_contra above
      nlinarith
    have atLeast : nearest ≤ quotient + 1 := by
      by_contra below
      nlinarith
    omega
  rcases close with rfl | rfl
  · split
    · rfl
    · split
      · nlinarith
      · have halfway : 2 * remainder = denominator := by omega
        have even : quotient % 2 = 0 := by
          by_contra odd
          obtain ⟨-, strict⟩ := inside (by omega)
          nlinarith
        omega
  · split
    · nlinarith
    · split
      · rfl
      · have even : (quotient + 1) % 2 = 0 := by
          by_contra odd
          obtain ⟨strict, -⟩ := inside (by omega)
          nlinarith
        omega

end Round

namespace Double

/-- A quotient, counted in smallest steps, lies in the interval of the reals that round to
the absolute value. The ends belong to the interval when the significand is even. -/
structure Rounds (value : Double) (stepCount denominator : Nat) : Prop where
  lower : value.lowerEnd * denominator ≤ 4 * stepCount
  upper : 4 * stepCount ≤ value.upperEnd * denominator
  inside : value.significand % 2 = 1 →
    value.lowerEnd * denominator < 4 * stepCount ∧ 4 * stepCount < value.upperEnd * denominator

variable {value : Double} {stepCount numerator denominator : Nat}

/-- The lower end is no more than half a unit of the last place away. -/
theorem le_lowerEnd (value : Double) (denominator : Nat) :
    4 * value.significand * (denominator * 2 ^ value.scale) ≤
      value.lowerEnd * denominator + 2 * (denominator * 2 ^ value.scale) := by
  have steps : value.steps = value.significand * 2 ^ value.scale := rfl
  have power : Nat.pow 2 value.scale = 2 ^ value.scale := rfl
  unfold lowerEnd
  rw [steps, power]
  generalize 2 ^ value.scale = unit
  have fewer : ∀ part, 4 * (value.significand * unit) ≤
      4 * (value.significand * unit) - part + part := fun part => by omega
  split
  · nlinarith [fewer unit]
  · nlinarith [fewer (2 * unit)]

/-- The upper end is half a unit of the last place away. -/
theorem upperEnd_mul (value : Double) (denominator : Nat) :
    value.upperEnd * denominator =
      (4 * value.significand + 2) * (denominator * 2 ^ value.scale) := by
  have steps : value.steps = value.significand * 2 ^ value.scale := rfl
  have power : Nat.pow 2 value.scale = 2 ^ value.scale := rfl
  unfold upperEnd
  rw [steps, power]
  ring

/-- A count of steps is scaled by the power of two that leaves 53 binary digits before the
point, but never by less than one. -/
theorem scale_of_bounds {scale : Nat} (positive : 0 < denominator)
    (below : stepCount < 2 ^ 53 * (denominator * 2 ^ scale))
    (above : scale = 0 ∨ 2 ^ 52 * (denominator * 2 ^ scale) ≤ stepCount) :
    (stepCount / denominator).log2 - 52 = scale := by
  have quotientBelow : stepCount / denominator < 2 ^ (53 + scale) := by
    rw [Nat.div_lt_iff_lt_mul positive, pow_add]
    linarith
  have atMost : (stepCount / denominator).log2 < 53 + scale ∨ stepCount / denominator = 0 := by
    by_cases zero : stepCount / denominator = 0
    · exact .inr zero
    · exact .inl ((Nat.log2_lt zero).2 quotientBelow)
  rcases above with rfl | above
  · rcases atMost with small | zero
    · omega
    · simp [zero]
  · have quotientAbove : 2 ^ (52 + scale) ≤ stepCount / denominator := by
      rw [Nat.le_div_iff_mul_le positive, pow_add]
      linarith
    have nonzero : stepCount / denominator ≠ 0 := by
      have : 0 < 2 ^ (52 + scale) := by positivity
      omega
    have atLeast := (Nat.le_log2 nonzero).2 quotientAbove
    omega

/-- The lower end below a power of two is a quarter of a unit of the last place away. -/
theorem lowerEnd_of_power {scale : Nat} (least : value.significand = 2 ^ 52)
    (scaled : value.scale = scale + 1) :
    value.lowerEnd + 2 * 2 ^ scale = 2 ^ 55 * 2 ^ scale := by
  have steps : value.steps = 2 ^ 52 * (2 * 2 ^ scale) := by
    rw [Double.steps, least, scaled, ← pow_succ']
    rfl
  have power : Nat.pow 2 value.scale = 2 * 2 ^ scale := by
    rw [scaled, ← pow_succ']
    rfl
  have isPower : value.significand = Nat.pow 2 52 ∧ value.scale ≠ 0 := ⟨least, by omega⟩
  rw [lowerEnd, if_pos isPower, steps, power]
  generalize 2 ^ scale = unit
  omega

/-- A quotient on the scale of a value that rounds to it is converted to it. -/
theorem ofQuotient?_of_rounds_on_scale (positive : 0 < denominator)
    (rounds : value.Rounds (numerator * stepsPerOne) denominator) (negative : Bool)
    (onScale : value.scale = 0 ∨
      2 ^ 52 * (denominator * 2 ^ value.scale) ≤ numerator * stepsPerOne) :
    ofQuotient? negative numerator denominator = some { value with negative } := by
  have lower := value.le_lowerEnd denominator
  have upper := value.upperEnd_mul denominator
  obtain ⟨notBelow, notAbove, inside⟩ := rounds
  have small : value.significand < 2 ^ 53 := value.significand_lt
  have unitPositive : 0 < denominator * 2 ^ value.scale := by positivity
  have scale : (numerator * stepsPerOne / denominator).log2 - 52 = value.scale := by
    refine scale_of_bounds positive ?_ onScale
    nlinarith
  have significand : roundDiv .toEven (numerator * stepsPerOne)
      (denominator * Nat.pow 2 value.scale) = value.significand := by
    refine roundDiv_eq_of_within unitPositive ?_ ?_ fun odd => ?_
    · change 2 * value.significand * (denominator * 2 ^ value.scale) ≤
        2 * (numerator * stepsPerOne) + denominator * 2 ^ value.scale
      linarith
    · change 2 * (numerator * stepsPerOne) ≤
        (2 * value.significand + 1) * (denominator * 2 ^ value.scale)
      linarith
    · obtain ⟨strictlyAbove, strictlyBelow⟩ := inside odd
      change 2 * value.significand * (denominator * 2 ^ value.scale) <
          2 * (numerator * stepsPerOne) + denominator * 2 ^ value.scale ∧
        2 * (numerator * stepsPerOne) <
          (2 * value.significand + 1) * (denominator * 2 ^ value.scale)
      constructor
      · linarith
      · linarith
  have normal : value.significand ≠ Nat.pow 2 53 := Nat.ne_of_lt small
  rw [ofQuotient?, scale, significand, if_neg normal]
  exact ofParts?_parts { value with negative }

/-- A quotient below the scale of a value that rounds to it is converted to it: the value is
the least one on its scale, and the quotient rounds to the end of the scale before it. -/
theorem ofQuotient?_of_rounds_below_scale (positive : 0 < denominator)
    (rounds : value.Rounds (numerator * stepsPerOne) denominator) (negative : Bool)
    (scaled : value.scale ≠ 0)
    (belowScale : numerator * stepsPerOne < 2 ^ 52 * (denominator * 2 ^ value.scale)) :
    ofQuotient? negative numerator denominator = some { value with negative } := by
  have lower := value.le_lowerEnd denominator
  obtain ⟨notBelow, -, -⟩ := rounds
  have normal : 2 ^ 52 ≤ value.significand := value.normal.resolve_left scaled
  have least : value.significand = 2 ^ 52 := by
    by_contra greater
    have next : 2 ^ 52 + 1 ≤ value.significand := by omega
    have := Nat.mul_le_mul_right (denominator * 2 ^ value.scale) next
    have : 0 < denominator * 2 ^ value.scale := by positivity
    linarith
  obtain ⟨scale, sameScale⟩ : ∃ scale, value.scale = scale + 1 :=
    Nat.exists_eq_succ_of_ne_zero scaled
  have lowerEnd := congrArg (· * denominator) (lowerEnd_of_power least sameScale)
  have unitPositive : 0 < denominator * 2 ^ scale := by positivity
  have doubled : 2 ^ value.scale = 2 * 2 ^ scale := by rw [sameScale, pow_succ']
  rw [doubled] at belowScale
  have smaller : (numerator * stepsPerOne / denominator).log2 - 52 = scale := by
    refine scale_of_bounds positive ?_ (.inr ?_)
    · linarith
    · linarith
  have significand : roundDiv .toEven (numerator * stepsPerOne)
      (denominator * Nat.pow 2 scale) = Nat.pow 2 53 := by
    refine roundDiv_eq_of_within unitPositive ?_ ?_ fun odd => ?_
    · change 2 * 2 ^ 53 * (denominator * 2 ^ scale) ≤
        2 * (numerator * stepsPerOne) + denominator * 2 ^ scale
      linarith
    · change 2 * (numerator * stepsPerOne) ≤ (2 * 2 ^ 53 + 1) * (denominator * 2 ^ scale)
      linarith
    · exact absurd odd (by decide)
  have power : Nat.pow 2 52 = value.significand := least.symm
  rw [ofQuotient?, smaller, significand, if_pos rfl, ← sameScale, power]
  exact ofParts?_parts { value with negative }

/-- A quotient that rounds to a value is converted to it, with the sign that is asked for. -/
theorem ofQuotient?_of_rounds (positive : 0 < denominator)
    (rounds : value.Rounds (numerator * stepsPerOne) denominator) (negative : Bool) :
    ofQuotient? negative numerator denominator = some { value with negative } := by
  by_cases onScale : value.scale = 0 ∨
      2 ^ 52 * (denominator * 2 ^ value.scale) ≤ numerator * stepsPerOne
  · exact ofQuotient?_of_rounds_on_scale positive rounds negative onScale
  · obtain ⟨scaled, belowScale⟩ := not_or.1 onScale
    exact ofQuotient?_of_rounds_below_scale positive rounds negative scaled
      (not_le.1 belowScale)

/-- The scale on which a quotient is rounded. -/
theorem bounds_of_scale {scale : Nat} (positive : 0 < denominator)
    (scaled : (stepCount / denominator).log2 - 52 = scale) :
    stepCount < 2 ^ 53 * (denominator * 2 ^ scale) ∧
      (scale = 0 ∨ 2 ^ 52 * (denominator * 2 ^ scale) ≤ stepCount) := by
  have quotientBelow : stepCount / denominator < 2 ^ (53 + scale) :=
    lt_of_lt_of_le Nat.lt_log2_self (Nat.pow_le_pow_right (by decide) (by omega))
  rw [Nat.div_lt_iff_lt_mul positive, pow_add] at quotientBelow
  refine ⟨by linarith, ?_⟩
  rcases Nat.eq_zero_or_pos scale with zero | several
  · exact .inl zero
  · have nonzero : stepCount / denominator ≠ 0 := by
      intro zero
      rw [zero, Nat.log2_zero] at scaled
      omega
    have quotientAbove : 2 ^ (52 + scale) ≤ stepCount / denominator :=
      le_trans (Nat.pow_le_pow_right (by decide) (by omega)) (Nat.log2_self_le nonzero)
    rw [Nat.le_div_iff_mul_le positive, pow_add] at quotientAbove
    exact .inr (by linarith)

/-- Parts in canonical form are those of a value. -/
theorem exists_ofParts? {negative : Bool} {significand scale : Nat}
    (small : significand < 2 ^ 53) (scaleSmall : scale ≤ 2045)
    (normal : scale = 0 ∨ 2 ^ 52 ≤ significand) :
    ∃ value, ofParts? negative significand scale = some value :=
  ⟨⟨negative, significand, scale, small, scaleSmall, normal⟩,
    ofParts?_parts ⟨negative, significand, scale, small, scaleSmall, normal⟩⟩

/-- There is a smallest step. -/
theorem stepsPerOne_pos : 0 < stepsPerOne := by
  unfold stepsPerOne
  generalize 1074 = exponent
  exact Nat.two_pow_pos exponent

/-- The steps of a power of two. -/
theorem two_pow_mul_stepsPerOne (exponent : Nat) :
    2 ^ exponent * stepsPerOne = 2 ^ (exponent + 1074) := by
  unfold stepsPerOne
  generalize 1074 = more
  exact (pow_add 2 exponent more).symm

/-- Every quotient below `2 ^ 1023` is converted to a value. -/
theorem exists_ofQuotient? (positive : 0 < denominator)
    (below : numerator < 2 ^ 1023 * denominator) (negative : Bool) :
    ∃ value, ofQuotient? negative numerator denominator = some value := by
  have stepsBelow : numerator * stepsPerOne < 2 ^ (1023 + 1074) * denominator := by
    rw [← two_pow_mul_stepsPerOne, Nat.mul_right_comm]
    exact Nat.mul_lt_mul_of_pos_right below stepsPerOne_pos
  rw [ofQuotient?]
  generalize numerator * stepsPerOne = stepCount at *
  have scaleSmall : (stepCount / denominator).log2 - 52 ≤ 2044 := by
    have quotientBelow := (Nat.div_lt_iff_lt_mul positive).2 stepsBelow
    by_cases zero : stepCount / denominator = 0
    · simp [zero]
    · have := (Nat.log2_lt zero).2 quotientBelow
      omega
  generalize scaled : (stepCount / denominator).log2 - 52 = scale at *
  obtain ⟨belowNext, onScale⟩ := bounds_of_scale positive scaled
  have unitPositive : 0 < denominator * 2 ^ scale := by positivity
  have atMost : roundDiv .toEven stepCount (denominator * Nat.pow 2 scale) ≤ 2 ^ 53 :=
    roundDiv_le unitPositive (Nat.le_of_lt belowNext)
  have atLeast : scale = 0 ∨
      2 ^ 52 ≤ roundDiv .toEven stepCount (denominator * Nat.pow 2 scale) :=
    onScale.imp_right (le_roundDiv unitPositive)
  split
  · exact exists_ofParts? (by decide) (by omega) (.inr (Nat.le_refl _))
  · next notNext => exact exists_ofParts? (lt_of_le_of_ne atMost notNext) (by omega) atLeast

end Double

end PredictionMarket.Decimal
