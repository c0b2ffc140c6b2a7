import Mathlib.Tactic.LinearCombination
import PredictionMarket.Proofs.Decimal.PlainText
import PredictionMarket.Proofs.Decimal.Shortest

/-!
# Grouped decimals denote the rounded value

A value is rounded on its exact binary value and written with commas between groups of three
digits and without needless zeros, so that the text denotes the rounded value and nothing
else (`grouped_is_exact_rounding`). A value that rounds to zero without being zero is written
with the fewest digits that read back.
-/

namespace PredictionMarket.Decimal

/-- A text without its commas. -/
def withoutCommas (text : List Char) : List Char := text.filter (· ≠ ',')

/-- The number that a text with commas denotes. -/
def denoted? (text : List Char) : Option ℚ :=
  (Literal.ofText? (withoutCommas text)).map Literal.toRat

/-- The point and the digits of a fraction, if there is one. -/
def pointed (fraction : List Char) : List Char :=
  if fraction.isEmpty then [] else '.' :: fraction

/-- A fraction with its point consists of digits and the point. -/
theorem mem_pointed {fraction : List Char} (digits : AllDigits fraction) {c : Char}
    (member : c ∈ pointed fraction) : c.isDigit = true ∨ c = '.' := by
  unfold pointed at member
  split at member
  · cases member
  · rcases List.mem_cons.1 member with point | digit
    · exact .inr point
    · exact .inl (digits c digit)

section Thousands

variable {text : List Char}

/-- A comma is not a digit. -/
theorem ne_comma_of_isDigit {c : Char} (digit : c.isDigit = true) : c ≠ ',' := by
  rintro rfl
  cases digit

/-- A text of digits has no commas to lose. -/
theorem AllDigits.withoutCommas_eq (digits : AllDigits text) : withoutCommas text = text :=
  List.filter_eq_self.2 fun c member => decide_eq_true (ne_comma_of_isDigit (digits c member))

/-- Behind a digit stands a comma when more digits follow, in whole groups of three. -/
theorem groupThousands_cons (digit : Char) (rest : List Char) :
    groupThousands (digit :: rest) =
      digit :: ((if rest.length % 3 = 0 ∧ rest.length ≠ 0 then [','] else []) ++
        groupThousands rest) := by
  simp only [groupThousands, ne_eq, List.length_eq_zero_iff]
  split <;> rfl

/-- Of two texts in a row each loses its commas. -/
theorem withoutCommas_append (first second : List Char) :
    withoutCommas (first ++ second) = withoutCommas first ++ withoutCommas second :=
  List.filter_append first second

/-- A sign has no comma to lose. -/
theorem withoutCommas_sign (negative : Prop) [Decidable negative] :
    withoutCommas (if negative then ['-'] else []) = if negative then ['-'] else [] := by
  split <;> rfl

/-- Grouping puts in commas and nothing else. -/
theorem withoutCommas_groupThousands (text : List Char) :
    withoutCommas (groupThousands text) = withoutCommas text := by
  induction text with
  | nil => rfl
  | cons digit rest inductionHypothesis =>
    have dropped : withoutCommas
        (if rest.length % 3 = 0 ∧ rest.length ≠ 0 then [','] else []) = [] := by
      split <;> rfl
    rw [groupThousands_cons, ← List.singleton_append, withoutCommas_append, withoutCommas_append,
      dropped, List.nil_append, inductionHypothesis, ← withoutCommas_append,
      List.singleton_append]

/-- One comma stands for every three digits behind the first one. -/
theorem length_groupThousands (text : List Char) :
    (groupThousands text).length = text.length + (text.length - 1) / 3 := by
  induction text with
  | nil => rfl
  | cons digit rest inductionHypothesis =>
    rw [groupThousands_cons]
    rw [List.length_cons, List.length_append, inductionHypothesis, List.length_cons]
    split <;> simp only [List.length_cons, List.length_nil] <;> omega

/-- Counted from the right, every fourth character of grouped digits is a comma, and no other
one is. -/
theorem comma_iff_of_groupThousands (digits : AllDigits text) {i : Nat} {c : Char}
    (present : (groupThousands text).reverse[i]? = some c) : c = ',' ↔ i % 4 = 3 := by
  induction text with
  | nil => cases present
  | cons digit rest inductionHypothesis =>
    obtain ⟨isDigit, restDigits⟩ := List.forall_mem_cons.1 digits
    have notComma := ne_comma_of_isDigit isDigit
    have length := length_groupThousands rest
    rw [groupThousands_cons, List.reverse_cons, List.reverse_append, List.append_assoc,
      List.getElem?_append, List.length_reverse] at present
    split at present
    · exact inductionHypothesis restDigits present
    · next behind =>
      obtain ⟨offset, rfl⟩ := Nat.exists_eq_add_of_le (Nat.not_lt.1 behind)
      rw [Nat.add_sub_cancel_left] at present
      split at present
      · match offset, present with
        | 0, rfl =>
          simp only [true_iff]
          omega
        | 1, rfl =>
          simp only [notComma, false_iff]
          omega
      · match offset, present with
        | 0, rfl =>
          simp only [notComma, false_iff]
          omega

/-- Grouped digits begin with the first digit. -/
theorem head?_groupThousands (text : List Char) : (groupThousands text).head? = text.head? := by
  cases text with
  | nil => rfl
  | cons digit rest => rw [groupThousands_cons, List.head?_cons, List.head?_cons]

/-- A number whose digits begin with zero is zero. -/
theorem head?_whole {n : Nat} (zero : (groupThousands (digits n)).head? = some '0') :
    groupThousands (digits n) = ['0'] := by
  rw [head?_groupThousands] at zero
  rw [digits_of_head?_zero zero]
  rfl

end Thousands

section Fraction

variable {text : List Char} {places n : Nat}

/-- No zero is left at the end of a text. -/
theorem getLast?_withoutFinalZeros (text : List Char) :
    (withoutFinalZeros text).getLast? ≠ some '0' := by
  intro zero
  rw [withoutFinalZeros, List.getLast?_reverse] at zero
  have stops := List.head?_dropWhile_not (· == '0') text.reverse
  rw [zero] at stops
  cases stops

/-- A fraction without its final zeros denotes the same part of one. -/
theorem valueOf_withoutFinalZeros_mul (small : n < 10 ^ places) :
    valueOf (withoutFinalZeros (paddedDigits places n)) * 10 ^ places =
      n * 10 ^ (withoutFinalZeros (paddedDigits places n)).length := by
  obtain ⟨count, joined⟩ := withoutFinalZeros_append (paddedDigits places n)
  generalize withoutFinalZeros (paddedDigits places n) = fraction at *
  have denoted := congrArg valueOf joined
  rw [valueOf_append_replicate_zero, valueOf_paddedDigits] at denoted
  rcases Nat.eq_zero_or_pos places with rfl | several
  · obtain rfl : n = 0 := Nat.lt_one_iff.1 small
    have none := (Nat.mul_eq_zero.1 denoted).resolve_right (Nat.pow_pos (by decide)).ne'
    rw [none, Nat.zero_mul, Nat.zero_mul]
  · have length := congrArg List.length joined
    rw [length_paddedDigits several small, List.length_append, List.length_replicate] at length
    rw [← denoted, Nat.mul_assoc, ← pow_add, ← length, Nat.add_comm]

/-- Nothing is left of a fraction exactly when it is zero. -/
theorem withoutFinalZeros_eq_nil_iff :
    withoutFinalZeros (paddedDigits places n) = [] ↔ n = 0 := by
  constructor
  · intro none
    obtain ⟨count, joined⟩ := withoutFinalZeros_append (paddedDigits places n)
    have denoted := congrArg valueOf joined
    rwa [none, List.nil_append, valueOf_replicate_zero, valueOf_paddedDigits, eq_comm] at denoted
  · rintro rfl
    have zeros : ∀ c ∈ (paddedDigits places 0).reverse, (c == '0') = true := by
      intro c member
      rw [List.mem_reverse, paddedDigits, List.mem_append, List.mem_replicate] at member
      rcases member with ⟨-, rfl⟩ | last
      · rfl
      · exact beq_iff_eq.2 (List.mem_singleton.1 last)
    rw [withoutFinalZeros, List.dropWhile_eq_nil_iff.2 zeros, List.reverse_nil]

/-- What is left of a fraction consists of digits. -/
theorem allDigits_withoutFinalZeros (places n : Nat) :
    AllDigits (withoutFinalZeros (paddedDigits places n)) := by
  obtain ⟨count, joined⟩ := withoutFinalZeros_append (paddedDigits places n)
  have part := List.sublist_append_left (withoutFinalZeros (paddedDigits places n))
    (List.replicate count '0')
  rw [joined] at part
  exact (allDigits_paddedDigits places n).of_sublist part

end Fraction

/-- How a number of units of the last of some places is written: the whole part with its commas,
and the fraction. -/
structure IsGrouped (units places : Nat) (whole fraction : List Char) : Prop where
  /-- Without commas the whole part is the integer part of the number. -/
  integer : withoutCommas whole = digits (units / 10 ^ places)
  /-- Counted from the units digit, every fourth character is a comma, and no other one is. -/
  commas : ∀ (i : Nat) (c : Char), whole.reverse[i]? = some c → (c = ',' ↔ i % 4 = 3)
  leading_digit : ∃ c ∈ whole.head?, c.isDigit = true
  no_leading_zero : whole.head? = some '0' → whole = ['0']
  fraction_digits : AllDigits fraction
  no_final_zero : fraction.getLast? ≠ some '0'
  /-- There is a fraction exactly when the number is no integer. -/
  bare_iff : fraction = [] ↔ 10 ^ places ∣ units

/-- A text is a plain decimal of a value, and no literal of that value has fewer digits. -/
structure IsShortest (value : Double) (text : List Char) : Prop where
  plain : ∀ c ∈ text, c.isDigit = true ∨ c = '.' ∨ c = '-'
  readsBack : ∃ literal, Literal.ofText? text = some literal ∧ literal.double? = some value ∧
    ∀ other : Literal, other.double? = some value →
      ∀ count, WithinDigits count other.scaled.coefficient →
        WithinDigits count literal.scaled.coefficient

/-- Digits and a fraction behind them are read as a literal. -/
theorem ofText?_pointed_fraction {whole fraction : List Char} (digits : AllDigits whole)
    (nonempty : whole ≠ []) (fractionDigits : AllDigits fraction) :
    Literal.ofText? (whole ++ pointed fraction) = some ⟨false, whole, fraction, 0⟩ := by
  unfold pointed
  cases fraction with
  | nil =>
    rw [List.isEmpty_nil, if_pos rfl, List.append_nil]
    exact Literal.ofText?_digits digits nonempty
  | cons c rest => exact Literal.ofText?_pointed digits nonempty fractionDigits

/-- A grouped number denotes its units. -/
theorem IsGrouped.denoted?_eq {units places : Nat} {whole fraction : List Char}
    (grouped : IsGrouped units places whole fraction) (negative : Bool)
    (isFraction : valueOf fraction * 10 ^ places = units % 10 ^ places * 10 ^ fraction.length) :
    denoted? ((if negative then ['-'] else []) ++ whole ++ pointed fraction) =
      some (signed negative (units / 10 ^ places)) := by
  have wholeDigits := allDigits_digits (units / 10 ^ places)
  have plain : ∀ c ∈ digits (units / 10 ^ places) ++ pointed fraction,
      c.isDigit = true ∨ c = '.' := by
    intro c member
    rcases List.mem_append.1 member with inWhole | inFraction
    · exact .inl (wholeDigits c inWhole)
    · exact mem_pointed grouped.fraction_digits inFraction
  have bare : withoutCommas ((if negative then ['-'] else []) ++ whole ++ pointed fraction) =
      (if negative then ['-'] else []) ++ (digits (units / 10 ^ places) ++ pointed fraction) := by
    have noComma : withoutCommas (pointed fraction) = pointed fraction := by
      refine List.filter_eq_self.2 fun c member => decide_eq_true ?_
      rcases plain c (List.mem_append_right _ member) with digit | rfl
      · exact ne_comma_of_isDigit digit
      · decide
    rw [withoutCommas_append, withoutCommas_append, grouped.integer, withoutCommas_sign, noComma,
      List.append_assoc]
  have read := ofText?_pointed_fraction wholeDigits (digits_ne_nil _) grouped.fraction_digits
  rw [denoted?, bare, (Literal.ofText?_sign_append negative plain read).2, Option.map_some]
  congr 1
  simp only [Literal.toRat, Literal.scaled, Scaled.toRat]
  congr 1
  have positive : (0 : ℚ) < 10 ^ places := by positivity
  have fractionPositive : (0 : ℚ) < 10 ^ fraction.length := by positivity
  have split : (units : ℚ) =
      (units / 10 ^ places : Nat) * 10 ^ places + (units % 10 ^ places : Nat) := by
    have := Nat.div_add_mod' units (10 ^ places)
    exact_mod_cast this.symm
  have isFractionRat : (valueOf fraction : ℚ) * 10 ^ places =
      (units % 10 ^ places : Nat) * 10 ^ fraction.length := by exact_mod_cast isFraction
  rw [Int.zero_sub, zpow_neg, zpow_natCast, valueOf_append, valueOf_digits, eq_div_iff positive.ne',
    Nat.cast_add, Nat.cast_mul, Nat.cast_pow, Nat.cast_ofNat, split]
  field_simp
  linear_combination isFractionRat

/-- A single zero is a literal. -/
theorem Literal.ofText?_zero : Literal.ofText? ['0'] = some ⟨false, ['0'], [], 0⟩ := rfl

/-- A literal with no digit but zeros is the value zero. -/
theorem Literal.double?_of_coefficient_eq_zero {literal : Literal}
    (zero : literal.scaled.coefficient = 0) :
    literal.double? = some (.zero literal.negative) := by
  rw [double?, Double.ofScaled?]
  exact if_pos (.inl zero)

/-- A single zero denotes zero. -/
theorem denoted?_zero : denoted? ['0'] = some 0 := by
  have bare : withoutCommas ['0'] = ['0'] := rfl
  have noCoefficient : (⟨false, ['0'], [], 0⟩ : Literal).scaled.coefficient = 0 := rfl
  rw [denoted?, bare, Literal.ofText?_zero, Option.map_some, Literal.toRat, Scaled.toRat,
    noCoefficient, Nat.cast_zero, zero_mul]
  rfl

namespace Double

variable {value : Double} {places : Nat}

/-- The rounded units are the rounding of the exact value. -/
theorem isRounding_roundedUnits (value : Double) (places : Nat) :
    IsRounding (|value.toRat| * 10 ^ places) (value.roundedUnits places) := by
  have rounding : IsRounding ((value.steps * Nat.pow 10 places : Nat) / stepsPerOne)
    (value.roundedUnits places) := isRounding_roundDiv stepsPerOne_pos
  have exact : |value.toRat| * 10 ^ places =
      ((value.steps * Nat.pow 10 places : Nat) : ℚ) / stepsPerOne := by
    have power : ((Nat.pow 10 places : Nat) : ℚ) = 10 ^ places := Nat.cast_pow 10 places
    rw [abs_toRat, Nat.cast_mul, power, div_mul_eq_mul_div]
  rw [exact]
  exact rounding

/-- Zero rounds to zero. -/
theorem roundedUnits_of_isZero (zero : value.isZero = true) (places : Nat) :
    value.roundedUnits places = 0 := by
  rw [roundedUnits, isZero_iff.1 zero, Nat.zero_mul]
  have rounded := roundDiv_mul_self .toEven 0 stepsPerOne stepsPerOne_pos
  rwa [Nat.zero_mul] at rounded

/-- A value that is not zero and rounds to zero is written in full. -/
theorem grouped_of_vanishing (vanishes : value.roundedUnits places = 0)
    (nonzero : value.isZero = false) : value.grouped places = plainNumeral.text value := by
  rw [grouped]
  exact if_pos ⟨vanishes, nonzero⟩

/-- Any other value is written as its rounded units. -/
theorem exists_isGrouped (shown : value.roundedUnits places = 0 → value.isZero = true) :
    ∃ whole fraction, IsGrouped (value.roundedUnits places) places whole fraction ∧
      valueOf fraction * 10 ^ places =
        value.roundedUnits places % 10 ^ places * 10 ^ fraction.length ∧
      value.grouped places =
        (if value.toRat < 0 then ['-'] else []) ++ whole ++ pointed fraction := by
  have power : Nat.pow 10 places = 10 ^ places := rfl
  have small := Nat.mod_lt (value.roundedUnits places) (Nat.pow_pos (by decide) : 0 < 10 ^ places)
  have wholeDigits := allDigits_digits (value.roundedUnits places / 10 ^ places)
  have negative : (value.negative && value.roundedUnits places != 0) =
      decide (value.toRat < 0) := by
    rw [Bool.eq_iff_iff, decide_eq_true_iff, toRat_neg_iff, Bool.and_eq_true, bne_iff_ne]
    refine and_congr_right fun _ => ⟨fun units => ?_, fun nonzero vanishes => ?_⟩
    · exact Bool.eq_false_iff.2 fun zero => units (roundedUnits_of_isZero zero places)
    · rw [shown vanishes] at nonzero
      cases nonzero
  refine ⟨groupThousands (digits (value.roundedUnits places / 10 ^ places)),
    withoutFinalZeros (paddedDigits places (value.roundedUnits places % 10 ^ places)),
    ?_, valueOf_withoutFinalZeros_mul small, ?_⟩
  · exact {
      integer := by rw [withoutCommas_groupThousands, wholeDigits.withoutCommas_eq]
      commas := fun i c => comma_iff_of_groupThousands wholeDigits
      leading_digit := by
        rw [head?_groupThousands]
        obtain ⟨c, rest, shape⟩ := List.exists_cons_of_ne_nil
          (digits_ne_nil (value.roundedUnits places / 10 ^ places))
        exact ⟨c, shape ▸ rfl, wholeDigits c (shape ▸ List.mem_cons_self)⟩
      no_leading_zero := head?_whole
      fraction_digits := allDigits_withoutFinalZeros _ _
      no_final_zero := getLast?_withoutFinalZeros _
      bare_iff := by rw [withoutFinalZeros_eq_nil_iff, Nat.dvd_iff_mod_eq_zero] }
  · have written : ¬ (value.roundedUnits places = 0 ∧ value.isZero = false) := by
      rintro ⟨vanishes, nonzero⟩
      rw [shown vanishes] at nonzero
      cases nonzero
    rw [grouped]
    dsimp only
    rw [if_neg written, negative, power, pointed]
    by_cases below : value.toRat < 0 <;> simp [below]

/-- A value that is not zero is written in full as a shortest plain decimal. -/
theorem isShortest_plainNumeral (nonzero : value.isZero = false) :
    IsShortest value (plainNumeral.text value) := by
  obtain ⟨text, literal, written, plain, read, same, isValue⟩ :=
    exists_text_plainNumeral nonzero
  obtain ⟨signedPlain, signedRead⟩ := Literal.ofText?_sign_append value.negative plain read
  rw [← written] at signedPlain signedRead
  refine ⟨signedPlain, _, signedRead, isValue, fun other otherRead count within => ?_⟩
  have few := withinDigits_shortest nonzero otherRead within plainNumeral.tie
  exact few.of_mul_pow_eq _ _ same.symm

/-- The grouped text of a value is the value, taken exactly, rounded to the places, ties to even.
A value that is not zero but rounds to zero is written with the fewest digits that read back.
Every other one has a minus exactly when it is below zero, commas between groups of three
digits, no needless zeros, and a fraction only if there is one; without commas it denotes the
rounded value. Zero alone is written as zero. -/
theorem grouped_is_exact_rounding (value : Double) (places : Nat) :
    (∃ units, IsRounding (|value.toRat| * 10 ^ places) units) ∧
    (∀ units, IsRounding (|value.toRat| * 10 ^ places) units →
      (units = 0 → value.toRat ≠ 0 →
        value.grouped places = plainNumeral.text value ∧
          IsShortest value (value.grouped places)) ∧
      ((units = 0 → value.toRat = 0) →
        (∃ whole fraction, IsGrouped units places whole fraction ∧
          value.grouped places =
            (if value.toRat < 0 then ['-'] else []) ++ whole ++ pointed fraction) ∧
        denoted? (value.grouped places) =
          some (signed (decide (value.toRat < 0)) (units / 10 ^ places)))) ∧
    (value.grouped places = ['0'] ↔ value.toRat = 0) := by
  have rounding := value.isRounding_roundedUnits places
  have vanishing : value.roundedUnits places = 0 → value.toRat ≠ 0 →
      value.grouped places = plainNumeral.text value ∧
        IsShortest value (value.grouped places) := by
    intro vanishes nonzero
    have isNonzero : value.isZero = false :=
      Bool.eq_false_iff.2 fun zero => nonzero (toRat_eq_zero_iff.2 zero)
    rw [grouped_of_vanishing vanishes isNonzero]
    exact ⟨rfl, isShortest_plainNumeral isNonzero⟩
  have written : (value.roundedUnits places = 0 → value.toRat = 0) →
      (∃ whole fraction, IsGrouped (value.roundedUnits places) places whole fraction ∧
        value.grouped places =
          (if value.toRat < 0 then ['-'] else []) ++ whole ++ pointed fraction) ∧
      denoted? (value.grouped places) =
        some (signed (decide (value.toRat < 0)) (value.roundedUnits places / 10 ^ places)) := by
    intro shown
    obtain ⟨whole, fraction, isGrouped, isFraction, text⟩ :=
      exists_isGrouped fun vanishes => toRat_eq_zero_iff.1 (shown vanishes)
    refine ⟨⟨whole, fraction, isGrouped, text⟩, ?_⟩
    have denoted := isGrouped.denoted?_eq (decide (value.toRat < 0)) isFraction
    simp only [decide_eq_true_eq] at denoted
    rw [text, denoted]
  refine ⟨⟨_, rounding⟩, fun units isRounding => ?_, ?_, fun zero => ?_⟩
  · rw [rounding.unique isRounding]
    exact ⟨vanishing, written⟩
  · intro zero
    by_contra nonzero
    by_cases vanishes : value.roundedUnits places = 0
    · obtain ⟨literal, read, isValue, -⟩ := (vanishing vanishes nonzero).2.readsBack
      rw [zero, Literal.ofText?_zero, Option.some_inj] at read
      rw [← read, Literal.double?_of_coefficient_eq_zero rfl, Option.some_inj] at isValue
      exact nonzero (toRat_eq_zero_iff.2 (isValue ▸ rfl))
    · have denoted := (written fun none => absurd none vanishes).2
      rw [zero, denoted?_zero, Option.some_inj] at denoted
      have magnitude := congrArg abs denoted
      rw [abs_zero, abs_signed (by positivity), eq_comm, div_eq_zero_iff,
        Nat.cast_eq_zero] at magnitude
      exact magnitude.elim vanishes (by positivity)
  · have isZero := toRat_eq_zero_iff.1 zero
    have bare : withoutFinalZeros (paddedDigits places 0) = [] :=
      withoutFinalZeros_eq_nil_iff.2 rfl
    simp [grouped, roundedUnits_of_isZero isZero, isZero, bare, digits, groupThousands]

/-- The value 1234.5, which is as near to 1234 as to 1235. -/
def halfway : Double := ⟨false, 2469 * 2 ^ 41, 1032, by decide, by decide, .inr (by decide)⟩

/-- Without places, 1234.5 is written as 1,234. -/
theorem grouped_halfway :
    IsRounding (|halfway.toRat| * 10 ^ 0) 1234 ∧ denoted? (halfway.grouped 0) = some 1234 ∧
      halfway.grouped 0 = ['1', ',', '2', '3', '4'] := by
  have units : halfway.roundedUnits 0 = 1234 := by decide +kernel
  have rounding := units ▸ isRounding_roundedUnits halfway 0
  have positive : ¬ halfway.toRat < 0 := fun below => Bool.noConfusion (toRat_neg_iff.1 below).1
  obtain ⟨-, general, -⟩ := grouped_is_exact_rounding halfway 0
  have denoted := ((general 1234 rounding).2 fun none => absurd none (by decide)).2
  rw [decide_eq_false positive] at denoted
  refine ⟨rounding, denoted.trans ?_, by decide +kernel⟩
  norm_num [signed]

end Double

end PredictionMarket.Decimal
