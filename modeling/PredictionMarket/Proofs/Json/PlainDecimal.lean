import PredictionMarket.Proofs.Decimal.Grouping
import PredictionMarket.Proofs.Decimal.Truncation
import PredictionMarket.Proofs.Json.Amount
import PredictionMarket.Proofs.Json.Notation

/-!
# Plain decimals of numbers

The running text of a JSON number is a decimal literal with no power of ten, no needless zero and
no `.0` behind an integer. An integer is written exactly, and so is a binary64 value that is an
integer below `10 ^ 15`; any other value is written with the fewest digits that read back
(`plain_texts_are_plain_decimals`). Since every text reads back as its value, no two values have
one text.
-/

namespace PredictionMarket

open Decimal

namespace Decimal

/-- A sign, digits and a fraction, with no needless zero in front or at the end. -/
structure PlainDecimal where
  negative : Bool
  /-- The digits before the point. -/
  whole : List Char
  /-- The digits after the point; without any there is no point. -/
  fraction : List Char
  whole_digits : AllDigits whole
  whole_ne_nil : whole ≠ []
  no_leading_zero : whole.head? = some '0' → whole = ['0']
  fraction_digits : AllDigits fraction
  no_final_zero : fraction.getLast? ≠ some '0'

namespace PlainDecimal

/-- The characters of a plain decimal. -/
def text (decimal : PlainDecimal) : List Char :=
  (if decimal.negative then ['-'] else []) ++ (decimal.whole ++ pointed decimal.fraction)

/-- A plain decimal as a literal, without a power of ten. -/
def literal (decimal : PlainDecimal) : Literal :=
  ⟨decimal.negative, decimal.whole, decimal.fraction, 0⟩

variable {decimal : PlainDecimal}

/-- What stands behind the sign consists of digits and a point. -/
theorem mem_unsigned {c : Char} (member : c ∈ decimal.whole ++ pointed decimal.fraction) :
    c.isDigit = true ∨ c = '.' := by
  rcases List.mem_append.1 member with inWhole | inFraction
  · exact .inl (decimal.whole_digits c inWhole)
  · exact mem_pointed decimal.fraction_digits inFraction

/-- A plain decimal is read as its literal. -/
theorem ofText?_text (decimal : PlainDecimal) :
    (∀ c ∈ decimal.text, c.isDigit = true ∨ c = '.' ∨ c = '-') ∧
      Literal.ofText? decimal.text = some decimal.literal :=
  Literal.ofText?_sign_append decimal.negative (fun _ member => mem_unsigned member)
    (ofText?_pointed_fraction decimal.whole_digits decimal.whole_ne_nil decimal.fraction_digits)

/-- No power of ten stands in a plain decimal. -/
theorem mark_not_mem_text (decimal : PlainDecimal) :
    'e' ∉ decimal.text ∧ 'E' ∉ decimal.text :=
  ⟨fun mark => absurd (decimal.ofText?_text.1 'e' mark) (by decide),
    fun mark => absurd (decimal.ofText?_text.1 'E' mark) (by decide)⟩

/-- A plain decimal does not end in `.0`. -/
theorem not_pointed_text (decimal : PlainDecimal) : ¬ ['.', '0'] <:+ decimal.text := by
  intro ends
  cases shown : decimal.fraction with
  | nil =>
    have point := ends.subset List.mem_cons_self
    rw [text, shown, pointed, List.isEmpty_nil, if_pos rfl, List.append_nil] at point
    rcases List.mem_append.1 point with inSign | inWhole
    · cases decimal.negative <;> simp at inSign
    · exact absurd (decimal.whole_digits '.' inWhole) (by decide)
  | cons c rest =>
    obtain ⟨front, same⟩ := ends
    have last := congrArg List.getLast? same
    rw [text, shown, pointed, List.isEmpty_cons] at last
    have zero : (c :: rest).getLast? = some '0' := by simpa using last.symm
    exact decimal.no_final_zero (shown ▸ zero)

/-- The plain decimal of an integer. -/
def ofNat (negative : Bool) (n : Nat) : PlainDecimal where
  negative
  whole := digits n
  fraction := []
  whole_digits := allDigits_digits n
  whole_ne_nil := digits_ne_nil n
  no_leading_zero := digits_of_head?_zero
  fraction_digits := nofun
  no_final_zero := nofun

/-- The text of an integer is its sign and its digits. -/
theorem text_ofNat (negative : Bool) (n : Nat) :
    (ofNat negative n).text = (if negative then ['-'] else []) ++ digits n :=
  congrArg ((if negative then ['-'] else []) ++ ·) (List.append_nil (digits n))

/-- The plain decimal of an integer denotes it. -/
theorem toRat_ofNat (negative : Bool) (n : Nat) :
    (ofNat negative n).literal.toRat = signed negative n := by
  simp [literal, ofNat, Literal.toRat, Literal.scaled, Scaled.toRat]

/-- The positional text of a decimal without zeros at its end is a plain decimal. -/
theorem exists_of_canonical {number : Scaled} (canonical : number.Canonical) (negative : Bool) :
    ∃ decimal : PlainDecimal, decimal.negative = negative ∧
      decimal.text = (if negative then ['-'] else []) ++
        positionalText (digits number.coefficient) number.exponent := by
  have shown := allDigits_digits number.coefficient
  have nonempty := digits_ne_nil number.coefficient
  have noZero : (digits number.coefficient).head? ≠ some '0' := by
    refine head?_digits (Nat.pos_of_ne_zero fun zero => canonical ?_)
    rw [zero, Nat.zero_mod]
  rcases positionalText_cases nonempty number.exponent with
    ⟨zeros, -, written⟩ | ⟨zeros, before, behind, joined, front, present, several, places, written⟩
  · have noLeading : (digits number.coefficient ++ List.replicate zeros '0').head? = some '0' →
        digits number.coefficient ++ List.replicate zeros '0' = ['0'] := by
      intro zero
      rw [List.head?_append_of_ne_nil _ nonempty] at zero
      exact absurd zero noZero
    refine ⟨⟨negative, _, [], shown.append (.replicate_zero zeros),
      List.append_ne_nil_of_left_ne_nil nonempty _, noLeading, nofun, nofun⟩, rfl, ?_⟩
    rw [written, text, pointed, List.isEmpty_nil, if_pos rfl, List.append_nil]
  · have allDigits := (AllDigits.replicate_zero zeros).append shown
    rw [joined] at allDigits
    have noLeading : before.head? = some '0' → before = ['0'] := by
      intro zero
      rcases front with rfl | single
      · rw [List.replicate_zero, List.nil_append] at joined
        rw [joined, List.head?_append_of_ne_nil _ present] at noZero
        exact absurd zero noZero
      · exact single
    have noFinal : behind.getLast? ≠ some '0' := by
      intro zero
      have fractional : number.exponent < 0 := by
        have length := List.length_pos_iff.2 several
        omega
      obtain ⟨rest, ends⟩ := List.getLast?_eq_some_iff.1 zero
      refine canonical.not_zero_suffix_positionalText fractional ⟨before ++ '.' :: rest, ?_⟩
      rw [written, ends, List.append_assoc, List.cons_append]
    refine ⟨⟨negative, before, behind, allDigits.of_sublist (List.sublist_append_left _ _), present,
      noLeading, allDigits.of_sublist (List.sublist_append_right _ _), noFinal⟩, rfl, ?_⟩
    rw [text, written, pointed, List.isEmpty_eq_false_iff.2 several]
    rfl

end PlainDecimal

/-- An integer is its absolute value with its sign. -/
theorem signed_natAbs (n : ℤ) : signed (decide (n < 0)) n.natAbs = n := by
  rw [Nat.cast_natAbs, Int.cast_abs]
  by_cases negative : n < 0
  · rw [decide_eq_true negative, abs_of_neg (Int.cast_lt_zero.2 negative)]
    exact neg_neg _
  · rw [decide_eq_false negative, abs_of_nonneg (Int.cast_nonneg (not_lt.1 negative))]
    rfl

namespace Double

variable {value : Double}

/-- A value that is written exactly is an integer below the bound. -/
theorem isExact_iff :
    (value.isIntegral && value.absLessThan exactIntegralBound) = true ↔
      (∃ n : ℤ, value.toRat = n) ∧ |value.toRat| < 10 ^ 15 := by
  have bound : (exactIntegralBound : ℚ) = 10 ^ 15 := Nat.cast_pow 10 15
  rw [Bool.and_eq_true, isIntegral_iff, absLessThan_iff, bound]

/-- No two values have one plain text. -/
theorem plainText_injective : Function.Injective plainText := by
  intro value other same
  have text : (Number.double value).plainText = (Number.double other).plainText :=
    congrArg String.ofList same
  have amounts := congrArg (fun text => (Json.string text).amount?) text
  simp only [Json.amount?_plainText, Number.toDouble?] at amounts
  exact Option.some.inj amounts

end Double

end Decimal

namespace Number

/-- What is written of a number: of an integer its exact value, and so of a binary64 value that is
an integer below `10 ^ 15`; of any other value as few digits as read back. -/
def IsWritten : Number → PlainDecimal → Prop
  | integer word, decimal =>
    decimal.negative = decide (word.toInt < 0) ∧ decimal.fraction = [] ∧
      decimal.literal.toRat = word.toInt
  | double value, decimal =>
    decimal.negative = value.negative ∧ decimal.literal.double? = some value ∧
      ((∃ n : ℤ, value.toRat = n) ∧ |value.toRat| < 10 ^ 15 →
        decimal.fraction = [] ∧ decimal.literal.toRat = value.toRat) ∧
      (¬ ((∃ n : ℤ, value.toRat = n) ∧ |value.toRat| < 10 ^ 15) →
        IsShortest value decimal.text)

/-- The plain decimal that is written of a value reads back as the value. -/
theorem double?_of_plainText {value : Double} {decimal : PlainDecimal}
    (written : (double value).plainText = String.ofList decimal.text) :
    decimal.literal.double? = some value := by
  obtain ⟨text, literal, same, -, read, isValue⟩ := (double value).exists_plainText
  rw [String.ofList_injective (same.symm.trans written), decimal.ofText?_text.2,
    Option.some_inj] at read
  rw [read, isValue]
  rfl

/-- The plain text of a number is the plain decimal that has to be written. -/
theorem exists_plainDecimal (number : Number) :
    ∃ decimal : PlainDecimal, number.plainText = String.ofList decimal.text ∧
      number.IsWritten decimal := by
  cases number with
  | integer word =>
    refine ⟨.ofNat (decide (word.toInt < 0)) word.toInt.natAbs, ?_, rfl, rfl, ?_⟩
    · rw [PlainDecimal.text_ofNat, plainText, intText_eq]
    · rw [PlainDecimal.toRat_ofNat, signed_natAbs]
  | double value =>
    by_cases exact : (value.isIntegral && value.absLessThan exactIntegralBound) = true
    · have written : (double value).plainText =
          String.ofList (PlainDecimal.ofNat value.negative value.truncate.natAbs).text := by
        rw [PlainDecimal.text_ofNat, plainText, Double.plainText, if_pos exact]
      refine ⟨_, written, rfl, double?_of_plainText written, fun _ => ⟨rfl, ?_⟩,
        fun inFull => absurd (Double.isExact_iff.1 exact) inFull⟩
      have integral := Double.toRat_eq_truncate (Bool.and_eq_true_iff.1 exact).1
      rw [PlainDecimal.toRat_ofNat, Nat.cast_natAbs, Int.cast_abs, ← integral, Double.abs_toRat]
      rfl
    · obtain ⟨nonzero, text⟩ := Double.plainText_of_inFull exact
      obtain ⟨decimal, sign, same⟩ := PlainDecimal.exists_of_canonical
        (Double.canonical_shortest nonzero .up) value.negative
      have written : (double value).plainText = String.ofList decimal.text := by
        rw [same, ← text]
        rfl
      refine ⟨decimal, written, sign, double?_of_plainText written,
        fun isExact => absurd (Double.isExact_iff.2 isExact) exact, fun _ => ?_⟩
      rw [same, ← Double.text_plainNumeral nonzero]
      exact Double.isShortest_plainNumeral nonzero

end Number

/-- The plain text of a number is a plain decimal: it has no power of ten and does not end in
`.0`. An integer is written exactly, and so is a binary64 value that is an integer below
`10 ^ 15`; any other value is written with the fewest digits that read back. Different values
have different texts. -/
theorem plain_texts_are_plain_decimals :
    (∀ number : Number, ∃ decimal : PlainDecimal,
      number.plainText = String.ofList decimal.text ∧
        Literal.ofText? decimal.text = some decimal.literal ∧
        'e' ∉ decimal.text ∧ 'E' ∉ decimal.text ∧ ¬ ['.', '0'] <:+ decimal.text ∧
        number.IsWritten decimal) ∧
      Function.Injective fun value : Double => (Number.double value).plainText := by
  refine ⟨fun number => ?_, fun value other same => ?_⟩
  · obtain ⟨decimal, written, isWritten⟩ := number.exists_plainDecimal
    exact ⟨decimal, written, decimal.ofText?_text.2, decimal.mark_not_mem_text.1,
      decimal.mark_not_mem_text.2, decimal.not_pointed_text, isWritten⟩
  · exact Double.plainText_injective (String.ofList_injective same)

/-- Zero keeps its sign, so that it is told from the other zero. -/
example : (Number.double (.zero true)).plainText = "-0" := by decide +kernel

end PredictionMarket
