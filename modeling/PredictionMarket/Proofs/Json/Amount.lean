import PredictionMarket.Proofs.Decimal.PlainText
import PredictionMarket.Proofs.Text.Trimming

/-!
# Amounts and plain texts

Every JSON number is an amount, and its plain text denotes the same amount. A value that is
no number has no amount unless it is a text, and the plain texts of truth values, arrays and
objects are no literals; so a value and its plain text always denote the same amount.
-/

namespace PredictionMarket

open Decimal

/-- A word integer has at most twenty digits. -/
theorem WordInt.digitCount_natAbs_le (word : WordInt) :
    digitCount word.toInt.natAbs ≤ 20 := by
  have lower := word.lower
  have upper := word.upper
  refine (Nat.length_toDigits_le_iff (by decide) (by decide)).2 ?_
  omega

/-- A character of a plain decimal is not blank. -/
theorem Text.isBlank_of_plain {c : Char} (plain : c.isDigit = true ∨ c = '.' ∨ c = '-') :
    Text.isBlank c = false := by
  rcases plain with digit | rfl | rfl
  · exact Text.isBlank_of_isDigit digit
  · rfl
  · rfl

namespace Number

/-- Every number has a nearest binary64 value. -/
theorem exists_toDouble? (number : Number) : ∃ amount, number.toDouble? = some amount := by
  cases number with
  | integer word =>
    have lower := word.lower
    have upper := word.upper
    refine Double.exists_ofQuotient? Nat.one_pos ?_ _
    rw [Nat.mul_one]
    exact lt_of_lt_of_le (by omega : word.toInt.natAbs < 2 ^ 64)
      (pow_le_pow_right₀ (by decide) (by decide))
  | double value => exact ⟨value, rfl⟩

/-- The plain text of a number is a sign and digits with at most a point; it is read as a
literal whose value is the number. -/
theorem exists_plainText (number : Number) :
    ∃ (text : List Char) (literal : Literal), number.plainText = String.ofList text ∧
      (∀ c ∈ text, c.isDigit = true ∨ c = '.' ∨ c = '-') ∧
      Literal.ofText? text = some literal ∧ literal.double? = number.toDouble? := by
  cases number with
  | integer word =>
    obtain ⟨plain, read⟩ := Literal.ofText?_sign_append (decide (word.toInt < 0))
      (fun c member => .inl (allDigits_digits _ c member))
      (Literal.ofText?_digits (allDigits_digits _) (digits_ne_nil _))
    refine ⟨_, _, ?_, plain, read, ?_⟩
    · rw [plainText, intText_eq]
    · have scaled : Literal.scaled ⟨decide (word.toInt < 0), digits word.toInt.natAbs, [], 0⟩ =
          ⟨word.toInt.natAbs, 0⟩ := by
        simp [Literal.scaled]
      have few := word.digitCount_natAbs_le
      rw [Literal.double?, scaled, Double.ofScaled?_whole (by omega)]
      rfl
  | double value =>
    obtain ⟨text, literal, same, plain, read, isValue⟩ := value.exists_plainText
    obtain ⟨signedPlain, signedRead⟩ := Literal.ofText?_sign_append value.negative plain read
    exact ⟨_, _, congrArg String.ofList same, signedPlain, signedRead, isValue⟩

end Number

namespace Json

/-- The plain text of a number denotes the amount that the number is. -/
theorem amount?_plainText (number : Number) :
    (string number.plainText).amount? = number.toDouble? := by
  obtain ⟨text, literal, same, plain, read, isAmount⟩ := number.exists_plainText
  have trimmed : Text.trim text = text :=
    Text.trim_eq_self_of_forall fun c member => Text.isBlank_of_plain (plain c member)
  rw [amount?, same, String.toList_ofList, trimmed, read, Option.bind_some, isAmount]

/-- What begins neither like a number nor with a blank denotes no amount. -/
theorem amount?_eq_none_of_head {c : Char} {rest : List Char}
    (other : c.isDigit = false ∧ c ≠ '+' ∧ c ≠ '-' ∧ c ≠ '.') (dense : Text.isBlank c = false) :
    (string (String.ofList (c :: rest))).amount? = none := by
  obtain ⟨kept, trimmed⟩ := Text.exists_trim_cons dense rest
  rw [amount?, String.toList_ofList, trimmed, Literal.ofText?_eq_none other]
  rfl

/-- A value and its plain text denote the same amount. -/
theorem amount?_of_plainText? {value : Json} {text : String}
    (shown : value.plainText? = some text) : (string text).amount? = value.amount? := by
  cases value with
  | null => cases shown
  | bool truth =>
    cases shown
    cases truth <;> rfl
  | number number =>
    cases shown
    exact amount?_plainText number
  | string content =>
    cases shown
    rfl
  | array elements =>
    cases shown
    exact amount?_eq_none_of_head (by decide) rfl
  | object members =>
    cases shown
    exact amount?_eq_none_of_head (by decide) rfl

end Json

end PredictionMarket
