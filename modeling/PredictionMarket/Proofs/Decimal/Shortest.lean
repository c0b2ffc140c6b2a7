import PredictionMarket.Proofs.Decimal.Exact
import PredictionMarket.Proofs.Decimal.ReadBack

/-!
# No decimal that reads back has fewer digits

The converse of reading back: a decimal that is read as a value lies in its interval
(`rounds_of_ofScaled?`). Seventeen digits always suffice, since their grid is finer than the
interval (`exists_gridPoint?_mostDigits`), and a decimal of fewer digits in the interval has
a grid point of that many digits between it and the value
(`exists_gridPoint?_of_few`). So the shortest decimal has the fewest digits
(`withinDigits_shortest`).
-/

namespace PredictionMarket.Decimal

open Double (exactPlaces stepsPerOne unitsPerStep unitsPerStep_pos mostDigits)

/-- A number is written with no more than `count` digits, apart from zeros at its end. -/
def WithinDigits (count n : Nat) : Prop := ∃ shown zeros, shown < 10 ^ count ∧ n = shown * 10 ^ zeros

namespace WithinDigits

variable {count n other : Nat}

/-- Zeros at the end of a number do not count. -/
theorem of_mul_pow_eq (within : WithinDigits count n) (left right : Nat)
    (same : n * 10 ^ left = other * 10 ^ right) : WithinDigits count other := by
  obtain ⟨shown, zeros, few, rfl⟩ := within
  rw [Nat.mul_assoc, ← pow_add] at same
  rcases Nat.le_total right (zeros + left) with more | fewer
  · refine ⟨shown, zeros + left - right, few, ?_⟩
    refine Nat.eq_of_mul_eq_mul_right (Nat.pow_pos (by decide : 0 < 10) : 0 < 10 ^ right) ?_
    rw [← same, Nat.mul_assoc, ← pow_add, Nat.sub_add_cancel more]
  · refine ⟨other, 0, lt_of_le_of_lt ?_ few, (Nat.mul_one other).symm⟩
    refine Nat.le_of_mul_le_mul_right ?_ (Nat.pow_pos (by decide : 0 < 10) : 0 < 10 ^ (zeros + left))
    rw [same]
    exact Nat.mul_le_mul_left other (Nat.pow_le_pow_right (by decide) fewer)

/-- A number up to a power of ten is written with the digits of its exponent. -/
theorem of_le_pow (several : 0 < count) (small : n ≤ 10 ^ count) : WithinDigits count n := by
  rcases Nat.lt_or_eq_of_le small with below | rfl
  · exact ⟨n, 0, below, (Nat.mul_one n).symm⟩
  · exact ⟨1, count, Nat.one_lt_pow several.ne' (by decide), (Nat.one_mul _).symm⟩

/-- More digits are allowed. -/
theorem mono {more : Nat} (within : WithinDigits count n) (fewer : count ≤ more) :
    WithinDigits more n := by
  obtain ⟨shown, zeros, few, rfl⟩ := within
  exact ⟨shown, zeros, lt_of_lt_of_le few (Nat.pow_le_pow_right (by decide) fewer), rfl⟩

end WithinDigits

/-- A number is that of its normal form times a power of ten. -/
theorem Scaled.exists_normalized_mul_pow (number : Scaled) :
    ∃ zeros, number.coefficient = number.normalized.coefficient * 10 ^ zeros := by
  fun_induction normalized number with
  | case1 number divides inductionHypothesis =>
    obtain ⟨zeros, same⟩ := inductionHypothesis
    refine ⟨zeros + 1, ?_⟩
    rw [pow_succ, ← Nat.mul_assoc, ← same]
    exact (Nat.div_mul_cancel (Nat.dvd_of_mod_eq_zero divides.2)).symm
  | case2 number complete => exact ⟨0, (Nat.mul_one _).symm⟩

namespace Double

variable {value : Double} {stepCount denominator : Nat}

/-- Whatever lies between two quotients that round to a value rounds to it. -/
theorem Rounds.between {lower lowerDenominator upper upperDenominator : Nat}
    (below : value.Rounds lower lowerDenominator) (above : value.Rounds upper upperDenominator)
    (belowPositive : 0 < lowerDenominator) (abovePositive : 0 < upperDenominator)
    (positive : 0 < denominator)
    (notLess : lower * denominator ≤ stepCount * lowerDenominator)
    (notGreater : stepCount * upperDenominator ≤ upper * denominator) :
    value.Rounds stepCount denominator := by
  constructor
  · refine Nat.le_of_mul_le_mul_right ?_ belowPositive
    have := Nat.mul_le_mul_right denominator below.lower
    linarith
  · refine Nat.le_of_mul_le_mul_right ?_ abovePositive
    have := Nat.mul_le_mul_right denominator above.upper
    linarith
  · intro odd
    constructor
    · refine Nat.lt_of_mul_lt_mul_right (a := lowerDenominator) ?_
      have := Nat.mul_lt_mul_of_pos_right (below.inside odd).1 positive
      linarith
    · refine Nat.lt_of_mul_lt_mul_right (a := upperDenominator) ?_
      have := Nat.mul_lt_mul_of_pos_right (above.inside odd).2 positive
      linarith

/-- A quotient rounds to a value on its scale whose significand is nearest to it. -/
theorem rounds_of_nearest (positive : 0 < denominator)
    (onScale : value.scale = 0 ∨ 2 ^ 52 * (denominator * 2 ^ value.scale) ≤ stepCount)
    (nearest : roundDiv .toEven stepCount (denominator * 2 ^ value.scale) = value.significand) :
    value.Rounds stepCount denominator := by
  have unit : 0 < denominator * 2 ^ value.scale := by positivity
  obtain ⟨upper, lower⟩ := roundDiv_within_half .toEven stepCount _ unit
  have tie := roundDiv_even_of_halfway unit nearest
  have upperEnd := value.upperEnd_mul denominator
  have steps : value.steps = value.significand * 2 ^ value.scale := rfl
  have power : Nat.pow 2 value.scale = 2 ^ value.scale := rfl
  rw [nearest] at upper lower
  -- A least significand has its lower end nearer, but the scale starts at the value itself.
  have lowerEnd_eq : value.lowerEnd * denominator =
        4 * (value.significand * (denominator * 2 ^ value.scale)) -
          2 * (denominator * 2 ^ value.scale) ∨
      value.significand = 2 ^ 52 ∧ value.lowerEnd * denominator ≤ 4 * stepCount := by
    unfold lowerEnd
    rw [steps, power]
    split
    · next least =>
      refine .inr ⟨least.1, ?_⟩
      have above := onScale.resolve_left least.2
      have cut := Nat.mul_le_mul_right denominator
        (Nat.sub_le (4 * (value.significand * 2 ^ value.scale)) (2 ^ value.scale))
      have same : value.significand = 2 ^ 52 := least.1
      rw [same] at cut ⊢
      linarith
    · refine .inl ?_
      rw [Nat.sub_mul]
      congr 1 <;> ring
  constructor
  · rcases lowerEnd_eq with same | ⟨-, below⟩
    · have : 2 * value.significand * (denominator * 2 ^ value.scale) =
          2 * (value.significand * (denominator * 2 ^ value.scale)) := Nat.mul_assoc ..
      omega
    · exact below
  · rw [upperEnd]
    linarith
  · intro odd
    have notHalfway : ¬ _ := fun halfway => absurd (tie halfway) (by omega)
    obtain ⟨notAbove, notBelow⟩ := not_or.1 notHalfway
    have same := lowerEnd_eq.resolve_right fun least => by omega
    rw [upperEnd, same]
    generalize denominator * 2 ^ value.scale = grid at *
    have half : 2 * value.significand * grid = 2 * (value.significand * grid) := Nat.mul_assoc ..
    have above : (2 * value.significand + 1) * grid = 2 * (value.significand * grid) + grid := by
      ring
    have twice : (4 * value.significand + 2) * grid =
        4 * (value.significand * grid) + 2 * grid := by ring
    have large : grid ≤ value.significand * grid := Nat.le_mul_of_pos_left _ (by omega)
    omega

/-- The value of parts has those parts. -/
theorem eq_of_ofParts? {negative : Bool} {significand scale : Nat}
    (converted : ofParts? negative significand scale = some value) :
    value.negative = negative ∧ value.significand = significand ∧ value.scale = scale := by
  unfold ofParts? at converted
  split at converted
  · cases converted
    exact ⟨rfl, rfl, rfl⟩
  · cases converted

/-- A quotient is converted to a value to which it rounds. -/
theorem rounds_of_ofQuotient? {negative : Bool} {numerator : Nat} (positive : 0 < denominator)
    (converted : ofQuotient? negative numerator denominator = some value) :
    value.Rounds (numerator * stepsPerOne) denominator := by
  rw [ofQuotient?] at converted
  generalize numerator * stepsPerOne = stepCount at *
  generalize scaled : (stepCount / denominator).log2 - 52 = scale at *
  obtain ⟨below, onScale⟩ := bounds_of_scale positive scaled
  have power : Nat.pow 2 scale = 2 ^ scale := rfl
  split at converted
  · next next =>
    obtain ⟨-, least, isScale⟩ := eq_of_ofParts? converted
    have unit : 0 < denominator * 2 ^ scale := by positivity
    have lower := (roundDiv_within_half .toEven stepCount _ unit).2
    have lowerEnd := congrArg (· * denominator) (lowerEnd_of_power least isScale)
    have upperEnd := value.upperEnd_mul denominator
    rw [power] at next
    rw [next] at lower
    change 2 * 2 ^ 53 * (denominator * 2 ^ scale) ≤ _ at lower
    change value.significand = 2 ^ 52 at least
    rw [least, isScale, pow_succ 2 scale] at upperEnd
    constructor
    · linarith
    · linarith
    · intro odd
      rw [least] at odd
      exact absurd odd (by decide)
  · obtain ⟨-, isSignificand, isScale⟩ := eq_of_ofParts? converted
    exact rounds_of_nearest positive (isScale ▸ onScale)
      (by rw [isSignificand, isScale, ← power])

/-- A decimal that is read as a value rounds to it. -/
theorem rounds_of_ofScaled? {negative : Bool} {number : Scaled} (nonzero : value.isZero = false)
    (converted : ofScaled? negative number = some value) :
    value.Rounds (number.coefficient * 10 ^ (number.exponent + exactPlaces).toNat)
      (unitsPerStep * 10 ^ (-(number.exponent + exactPlaces)).toNat) := by
  have quotient : ofQuotient? negative (number.coefficient * 10 ^ number.exponent.toNat)
      (10 ^ (-number.exponent).toNat) = some value := by
    unfold ofScaled? at converted
    dsimp only at converted
    split at converted
    · cases converted
      cases nonzero
    · split at converted
      · cases converted
      · split at converted
        · next whole =>
          rw [Int.toNat_of_nonpos (z := -number.exponent) (by omega), pow_zero]
          exact converted
        · next fractional =>
          rw [Int.toNat_of_nonpos (z := number.exponent) (by omega), pow_zero, Nat.mul_one]
          exact converted
  have denominatorPos : 0 < 10 ^ (-number.exponent).toNat := Nat.pow_pos (by decide)
  refine (rounds_of_ofQuotient? denominatorPos quotient).congr denominatorPos
    (Nat.mul_pos unitsPerStep_pos (Nat.pow_pos (by decide))) ?_
  have places : number.exponent.toNat + exactPlaces + (-(number.exponent + exactPlaces)).toNat =
      (number.exponent + exactPlaces).toNat + (-number.exponent).toNat := by omega
  have powers := congrArg (10 ^ ·) places
  simp only [pow_add, ten_pow_exactPlaces] at powers
  calc number.coefficient * 10 ^ number.exponent.toNat * stepsPerOne *
        (unitsPerStep * 10 ^ (-(number.exponent + exactPlaces)).toNat)
    _ = number.coefficient * (10 ^ number.exponent.toNat * (unitsPerStep * stepsPerOne) *
          10 ^ (-(number.exponent + exactPlaces)).toNat) := by ring
    _ = number.coefficient * 10 ^ (number.exponent + exactPlaces).toNat *
          10 ^ (-number.exponent).toNat := by rw [powers, Nat.mul_assoc]

/-- A rounded quotient is the integer below it or the next one. -/
theorem roundDiv_cases (tie : Tie) (numerator denominator : Nat) :
    roundDiv tie numerator denominator = numerator / denominator ∨
      roundDiv tie numerator denominator = numerator / denominator + 1 := by
  have settled := tie.settle_bounds (numerator / denominator)
  unfold roundDiv
  dsimp only
  split
  · exact .inl rfl
  · split
    · exact .inr rfl
    · omega

section Grid

variable {tie : Tie} {place : Nat}

/-- A point that is found on a grid is next to the value. -/
theorem eq_of_gridPoint? {coefficient : Nat}
    (found : value.gridPoint? tie place = some coefficient) :
    coefficient = value.exactUnits / 10 ^ place ∨
      coefficient = value.exactUnits / 10 ^ place + 1 := by
  have cases := roundDiv_cases tie value.exactUnits (Nat.pow 10 place)
  have power : Nat.pow 10 place = 10 ^ place := rfl
  unfold gridPoint? at found
  dsimp only at found
  rw [power] at found cases
  split at found
  · cases found
    exact cases
  · rw [Option.ite_none_right_eq_some] at found
    obtain ⟨-, same⟩ := found
    cases same
    split
    · exact .inr rfl
    · exact .inl rfl

/-- If a point of a grid next to the value rounds to it, a point is found on the grid. -/
theorem exists_gridPoint?_of_neighbour {point : Nat}
    (next : point = value.exactUnits / 10 ^ place ∨ point = value.exactUnits / 10 ^ place + 1)
    (rounds : value.Rounds (point * 10 ^ place) unitsPerStep) :
    ∃ coefficient, value.gridPoint? tie place = some coefficient := by
  have cases := roundDiv_cases tie value.exactUnits (Nat.pow 10 place)
  have power : Nat.pow 10 place = 10 ^ place := rfl
  rw [← readsBack_iff] at rounds
  unfold gridPoint?
  dsimp only
  rw [power] at cases ⊢
  split
  · exact ⟨_, rfl⟩
  · next notNearer =>
    refine ⟨_, if_pos ?_⟩
    have isFarther : point = if roundDiv tie value.exactUnits (10 ^ place) =
        value.exactUnits / 10 ^ place then value.exactUnits / 10 ^ place + 1
        else value.exactUnits / 10 ^ place := by
      have notNearer : point ≠ roundDiv tie value.exactUnits (10 ^ place) :=
        fun same => notNearer (same ▸ rounds)
      split <;> omega
    rw [← isFarther]
    exact rounds

/-- If a point of a grid rounds to the value, a point is found on the grid. -/
theorem exists_gridPoint?_of_rounds (point : Nat)
    (rounds : value.Rounds (point * 10 ^ place) unitsPerStep) :
    ∃ coefficient, value.gridPoint? tie place = some coefficient := by
  have positive := unitsPerStep_pos
  have power : 0 < 10 ^ place := Nat.pow_pos (by decide)
  have exact := value.rounds_exactUnits
  -- The neighbour on the side of the point lies between the point and the value.
  rcases Nat.le_total (point * 10 ^ place) value.exactUnits with below | above
  · have notLess : point ≤ value.exactUnits / 10 ^ place := (Nat.le_div_iff_mul_le power).2 below
    refine exists_gridPoint?_of_neighbour (.inl rfl)
      (rounds.between exact positive positive positive ?_ ?_)
    · exact Nat.mul_le_mul_right _ (Nat.mul_le_mul_right _ notLess)
    · exact Nat.mul_le_mul_right _ (Nat.div_mul_le_self _ _)
  · by_cases onGrid : value.exactUnits = value.exactUnits / 10 ^ place * 10 ^ place
    · exact exists_gridPoint?_of_neighbour (.inl rfl) (onGrid ▸ exact)
    · have notGreater : value.exactUnits / 10 ^ place + 1 ≤ point := by
        have notAbove := Nat.div_mul_le_self value.exactUnits (10 ^ place)
        have : value.exactUnits / 10 ^ place * 10 ^ place < point * 10 ^ place := by omega
        exact Nat.lt_of_mul_lt_mul_right this
      have next := Nat.lt_div_mul_add (a := value.exactUnits) power
      refine exists_gridPoint?_of_neighbour (.inr rfl)
        (exact.between rounds positive positive positive ?_ ?_)
      · refine Nat.mul_le_mul_right _ ?_
        rw [Nat.add_mul, Nat.one_mul]
        omega
      · exact Nat.mul_le_mul_right _ (Nat.mul_le_mul_right _ notGreater)

/-- A value that is not zero has units. -/
theorem exactUnits_pos (nonzero : value.isZero = false) : 0 < value.exactUnits := by
  have some : value.steps ≠ 0 := fun none => by
    rw [isZero_iff.2 none] at nonzero
    cases nonzero
  rw [exactUnits_eq]
  exact Nat.mul_pos (Nat.pos_of_ne_zero some) unitsPerStep_pos

/-- A value that is not zero is a point of the grid of its exact digits. -/
theorem exists_gridPoint?_exact :
    ∃ coefficient, value.gridPoint? tie 0 = some coefficient := by
  refine exists_gridPoint?_of_rounds value.exactUnits ?_
  rw [pow_zero, Nat.mul_one]
  exact value.rounds_exactUnits

/-- The first digit of a value that is not zero. -/
theorem pow_le_exactUnits (nonzero : value.isZero = false) :
    10 ^ (digitCount value.exactUnits - 1) ≤ value.exactUnits :=
  pow_le_of_lt_digitCount (exactUnits_pos nonzero)
    (Nat.sub_one_lt (Nat.ne_of_gt Nat.length_toDigits_pos))

/-- On the grid of as many digits as a decimal has that rounds to the value a point is
found. -/
theorem exists_gridPoint?_of_few (nonzero : value.isZero = false) {shown count : Nat}
    {exponent : Int} (several : 0 < count) (few : shown < 10 ^ count)
    (rounds : value.Rounds (shown * 10 ^ exponent.toNat)
      (unitsPerStep * 10 ^ (-exponent).toNat)) :
    ∃ coefficient,
      value.gridPoint? tie (digitCount value.exactUnits - count) = some coefficient := by
  generalize size : digitCount value.exactUnits = length at *
  rcases Nat.le_total length count with all | some
  · rw [Nat.sub_eq_zero_of_le all]
    exact exists_gridPoint?_exact
  · rcases lt_or_ge exponent ((length - count : Nat) : Int) with finer | coarser
    · -- The decimal is below the first digit of the value, which is on the grid.
      have positive := unitsPerStep_pos
      have finerPositive : 0 < unitsPerStep * 10 ^ (-exponent).toNat :=
        Nat.mul_pos positive (Nat.pow_pos (by decide))
      have leading : 10 ^ (count - 1) * 10 ^ (length - count) = 10 ^ (length - 1) := by
        rw [← pow_add]
        congr 1
        omega
      have notAbove := pow_le_exactUnits nonzero
      rw [size] at notAbove
      refine exists_gridPoint?_of_rounds (10 ^ (count - 1)) ?_
      rw [leading]
      refine rounds.between value.rounds_exactUnits finerPositive positive positive ?_ ?_
      · have below : shown * 10 ^ exponent.toNat ≤ 10 ^ (length - 1) * 10 ^ (-exponent).toNat := by
          calc shown * 10 ^ exponent.toNat
            _ ≤ 10 ^ count * 10 ^ exponent.toNat := Nat.mul_le_mul_right _ few.le
            _ ≤ 10 ^ (length - 1) * 10 ^ (-exponent).toNat := by
              rw [← pow_add, ← pow_add]
              exact Nat.pow_le_pow_right (by decide) (by omega)
        calc shown * 10 ^ exponent.toNat * unitsPerStep
          _ ≤ 10 ^ (length - 1) * 10 ^ (-exponent).toNat * unitsPerStep :=
            Nat.mul_le_mul_right _ below
          _ = 10 ^ (length - 1) * (unitsPerStep * 10 ^ (-exponent).toNat) := by ring
      · exact Nat.mul_le_mul_right _ notAbove
    · refine exists_gridPoint?_of_rounds
        (shown * 10 ^ (exponent.toNat - (length - count))) ?_
      have whole : (-exponent).toNat = 0 := Int.toNat_of_nonpos (by omega)
      have onGrid : exponent.toNat - (length - count) + (length - count) = exponent.toNat :=
        Nat.sub_add_cancel (by omega)
      have unscaled : unitsPerStep * 10 ^ (-exponent).toNat = unitsPerStep := by
        generalize unitsPerStep = unit
        rw [whole, Nat.pow_zero, Nat.mul_one]
      rw [unscaled] at rounds
      rw [Nat.mul_assoc, ← pow_add, onGrid]
      exact rounds

/-- What is at most half of a fine grid away from a value rounds to it: the grid is finer
than a unit of the last place, and at the end of a scale than half of one. -/
theorem rounds_of_near (nonzero : value.isZero = false) {units grid : Nat}
    (fine : grid * 10 ^ 16 ≤ value.exactUnits)
    (notFarBelow : 2 * value.exactUnits ≤ 2 * units + grid)
    (notFarAbove : 2 * units ≤ 2 * value.exactUnits + grid) :
    value.Rounds units unitsPerStep := by
  have lastPlace : 0 < unitsPerStep * 2 ^ value.scale :=
    Nat.mul_pos unitsPerStep_pos (Nat.two_pow_pos _)
  have exact : value.exactUnits = value.significand * (unitsPerStep * 2 ^ value.scale) := by
    rw [exactUnits_eq, Double.steps, Nat.mul_comm unitsPerStep, Nat.mul_assoc]
    rfl
  have upperEnd := value.upperEnd_mul unitsPerStep
  have small : value.significand < 2 ^ 53 := value.significand_lt
  have atMost := Nat.mul_le_mul_right (unitsPerStep * 2 ^ value.scale) small.le
  have atLeast : unitsPerStep * 2 ^ value.scale ≤ value.exactUnits := by
    rw [isZero, beq_eq_false_iff_ne] at nonzero
    rw [exact]
    exact Nat.le_mul_of_pos_left _ (Nat.pos_of_ne_zero nonzero)
  have lower : value.lowerEnd * unitsPerStep < 4 * units := by
    have steps : value.steps = value.significand * 2 ^ value.scale := rfl
    have power : Nat.pow 2 value.scale = 2 ^ value.scale := rfl
    have regroup : ∀ n : Nat, n * 2 ^ value.scale * unitsPerStep =
        n * (unitsPerStep * 2 ^ value.scale) := fun n => by ring
    unfold lowerEnd
    rw [steps, power, ← Nat.mul_assoc]
    split
    · next least =>
      have same : value.significand = 2 ^ 52 := least.1
      have once := regroup 1
      rw [Nat.one_mul, Nat.one_mul] at once
      rw [Nat.sub_mul, regroup, once, same]
      rw [exact, same] at fine notFarBelow
      generalize unitsPerStep * 2 ^ value.scale = unit at *
      omega
    · rw [Nat.sub_mul, regroup, regroup, Nat.mul_assoc 4, ← exact]
      generalize unitsPerStep * 2 ^ value.scale = unit at *
      omega
  have upper : 4 * units < value.upperEnd * unitsPerStep := by
    rw [upperEnd, Nat.add_mul, Nat.mul_assoc 4, ← exact]
    generalize unitsPerStep * 2 ^ value.scale = unit at *
    omega
  exact ⟨lower.le, upper.le, fun _ => ⟨lower, upper⟩⟩

/-- On the grid of seventeen digits a point is found. -/
theorem exists_gridPoint?_mostDigits (nonzero : value.isZero = false) :
    ∃ coefficient,
      value.gridPoint? tie (digitCount value.exactUnits - mostDigits) = some coefficient := by
  generalize size : digitCount value.exactUnits = length at *
  rcases Nat.le_total length mostDigits with all | some
  · rw [Nat.sub_eq_zero_of_le all]
    exact exists_gridPoint?_exact
  · have notAbove := pow_le_exactUnits nonzero
    rw [size] at notAbove
    have fine : 10 ^ (length - mostDigits) * 10 ^ 16 ≤ value.exactUnits := by
      refine le_trans (le_of_eq ?_) notAbove
      rw [← pow_add]
      congr 1
      unfold mostDigits at *
      omega
    obtain ⟨notFarBelow, notFarAbove⟩ := roundDiv_within_half .up value.exactUnits
      (10 ^ (length - mostDigits)) (Nat.pow_pos (by decide))
    refine exists_gridPoint?_of_rounds
      (roundDiv .up value.exactUnits (10 ^ (length - mostDigits)))
      (rounds_of_near nonzero fine ?_ ?_)
    · linarith
    · linarith

end Grid

/-- A decimal that is found on the grid of some digits has no more of them. -/
theorem withinDigits_of_gridPoint? {tie : Tie} {count coefficient : Nat} (several : 0 < count)
    (found : value.gridPoint? tie (digitCount value.exactUnits - count) = some coefficient) :
    WithinDigits count coefficient := by
  refine .of_le_pow several ?_
  have below : value.exactUnits / 10 ^ (digitCount value.exactUnits - count) < 10 ^ count := by
    rw [Nat.div_lt_iff_lt_mul (Nat.pow_pos (by decide)), ← pow_add]
    exact lt_of_lt_of_le (lt_pow_digitCount _) (Nat.pow_le_pow_right (by decide) (by omega))
  have next := eq_of_gridPoint? found
  omega

/-- Of the numbers for which something is found the least one decides. -/
theorem exists_of_findSome?_range {α : Type} {find? : Nat → Option α} {bound n : Nat} {result : α}
    (found : (List.range bound).findSome? find? = some result) (inside : n < bound)
    (present : find? n ≠ none) : ∃ first, first ≤ n ∧ find? first = some result := by
  obtain ⟨earlier, first, later, split, isResult, absent⟩ := List.findSome?_eq_some_iff.1 found
  refine ⟨first, ?_, isResult⟩
  have listed : n ∈ earlier ++ first :: later := split ▸ List.mem_range.2 inside
  have ascending : (earlier ++ first :: later).Pairwise (· < ·) := split ▸ List.pairwise_lt_range
  rcases List.mem_append.1 listed with before | behind
  · exact absurd (absent n before) present
  · rcases List.mem_cons.1 behind with rfl | after
    · exact Nat.le_refl _
    · exact ((List.pairwise_cons.1 (List.pairwise_append.1 ascending).2.1).1 n after).le

/-- No decimal that rounds to a value has fewer digits than the shortest one. -/
theorem withinDigits_shortest_of_rounds (nonzero : value.isZero = false) {shown count : Nat}
    {exponent : Int} (several : 0 < count) (few : shown < 10 ^ count)
    (rounds : value.Rounds (shown * 10 ^ exponent.toNat)
      (unitsPerStep * 10 ^ (-exponent).toNat)) (tie : Tie) :
    WithinDigits count (value.shortest tie).coefficient := by
  obtain ⟨enough, isEnough, atMost, onGrid⟩ : ∃ enough, enough < mostDigits ∧ enough + 1 ≤ count ∧
      ∃ coefficient, value.gridPoint? tie (digitCount value.exactUnits - (enough + 1)) =
        some coefficient := by
    rcases Nat.le_total count mostDigits with small | large
    · refine ⟨count - 1, by omega, by omega, ?_⟩
      rw [Nat.sub_add_cancel several]
      exact exists_gridPoint?_of_few nonzero several few rounds
    · exact ⟨mostDigits - 1, by decide, by omega, exists_gridPoint?_mostDigits nonzero⟩
  obtain ⟨coefficient, onGrid⟩ := onGrid
  rw [shortest]
  dsimp only
  cases found : (List.range mostDigits).findSome? _ with
  | none =>
    have absent := List.findSome?_eq_none_iff.1 found enough (List.mem_range.2 isEnough)
    rw [onGrid] at absent
    cases absent
  | some number =>
    obtain ⟨first, notLater, isNumber⟩ := exists_of_findSome?_range found isEnough (by simp [onGrid])
    obtain ⟨point, isPoint, rfl⟩ := Option.map_eq_some_iff.1 isNumber
    obtain ⟨zeros, same⟩ := Scaled.exists_normalized_mul_pow ⟨point, _⟩
    have within := withinDigits_of_gridPoint? (Nat.succ_pos first) isPoint
    rw [Option.getD_some]
    refine (within.mono (by omega)).of_mul_pow_eq 0 zeros ?_
    rw [pow_zero, Nat.mul_one, ← same]

/-- No decimal that is read as a value has fewer digits than the shortest one. -/
theorem withinDigits_shortest {negative : Bool} {number : Scaled} {count : Nat}
    (nonzero : value.isZero = false) (converted : ofScaled? negative number = some value)
    (within : WithinDigits count number.coefficient) (tie : Tie) :
    WithinDigits count (value.shortest tie).coefficient := by
  obtain ⟨shown, zeros, few, same⟩ := within
  have several : 0 < count := by
    by_contra none
    obtain rfl : count = 0 := by omega
    have zero : number.coefficient = 0 := by
      rw [same, Nat.lt_one_iff.1 few, Nat.zero_mul]
    rw [ofScaled?, if_pos (.inl zero)] at converted
    cases converted
    cases nonzero
  have rounds := rounds_of_ofScaled? nonzero converted
  rw [same] at rounds
  generalize number.exponent + (exactPlaces : Int) = exponent at *
  have denominatorPos : ∀ power, 0 < unitsPerStep * 10 ^ power := fun power =>
    Nat.mul_pos unitsPerStep_pos (Nat.pow_pos (by decide))
  have places : zeros + exponent.toNat + (-(exponent + zeros)).toNat =
      (exponent + zeros).toNat + (-exponent).toNat := by omega
  have powers := congrArg (10 ^ ·) places
  simp only [pow_add] at powers
  refine withinDigits_shortest_of_rounds nonzero several few
    (rounds.congr (denominatorPos _) (denominatorPos (-(exponent + zeros)).toNat) ?_) tie
  generalize unitsPerStep = unit
  calc shown * 10 ^ zeros * 10 ^ exponent.toNat * (unit * 10 ^ (-(exponent + zeros)).toNat)
    _ = shown * unit *
        (10 ^ zeros * 10 ^ exponent.toNat * 10 ^ (-(exponent + zeros)).toNat) := by ring
    _ = shown * 10 ^ (exponent + zeros).toNat * (unit * 10 ^ (-exponent).toNat) := by
      rw [powers]
      ring

end Double

end PredictionMarket.Decimal
