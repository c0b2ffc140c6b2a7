import PredictionMarket.Decimal.Literal
import PredictionMarket.Proofs.Decimal.Digits

/-!
# Reading decimal literals

What the parts of a written literal are read as: a minus makes it negative, digits alone are
its whole part, and digits behind a point its fraction. A text that begins otherwise is no
literal.
-/

namespace PredictionMarket.Decimal

namespace Literal

variable {whole fraction text : List Char}

/-- Nothing is split off a text that begins without a sign. -/
theorem spanSign_unsigned (unsigned : ∀ c ∈ text.head?, c ≠ '+' ∧ c ≠ '-') :
    spanSign text = (false, text) := by
  unfold spanSign
  split
  · exact absurd rfl (unsigned '+' rfl).1
  · exact absurd rfl (unsigned '-' rfl).2
  · rfl

/-- A digit is not a sign. -/
theorem ne_sign_of_isDigit {c : Char} (digit : c.isDigit = true) : c ≠ '+' ∧ c ≠ '-' := by
  constructor
  · rintro rfl
    cases digit
  · rintro rfl
    cases digit

/-- A minus in front of a text without a sign makes the literal negative. -/
theorem ofText?_signed (negative : Bool) (unsigned : ∀ c ∈ text.head?, c ≠ '+' ∧ c ≠ '-') :
    ofText? ((if negative then ['-'] else []) ++ text) =
      (ofText? text).map fun literal => { literal with negative } := by
  have split : spanSign ((if negative then ['-'] else []) ++ text) = (negative, text) := by
    cases negative
    · exact spanSign_unsigned unsigned
    · rfl
  unfold ofText?
  rw [split, spanSign_unsigned unsigned]
  dsimp only
  split
  all_goals
    split
    · rfl
    · rw [Option.map_map]
      rfl

/-- A sign in front of digits and a point is read on its own: what stands behind it is read as
it is read without the sign. -/
theorem ofText?_sign_append (negative : Bool) {literal : Literal}
    (plain : ∀ c ∈ text, c.isDigit = true ∨ c = '.')
    (read : ofText? text = some literal) :
    (∀ c ∈ (if negative then ['-'] else []) ++ text, c.isDigit = true ∨ c = '.' ∨ c = '-') ∧
      ofText? ((if negative then ['-'] else []) ++ text) =
        some { literal with negative } := by
  refine ⟨fun c member => ?_, ?_⟩
  · rcases List.mem_append.1 member with sign | behind
    · cases negative with
      | false => cases sign
      | true => exact .inr (.inr (List.mem_singleton.1 sign))
    · exact (plain c behind).imp_right .inl
  · rw [ofText?_signed negative fun c first => ?_, read]
    · rfl
    · rcases plain c (List.mem_of_mem_head? first) with digit | rfl
      · exact ne_sign_of_isDigit digit
      · decide

/-- Digits at the beginning of a text that does not go on with a digit are split off. -/
theorem spanDigits_append (digits : AllDigits whole)
    (ends : ∀ c ∈ text.head?, c.isDigit = false) : spanDigits (whole ++ text) = (whole, text) := by
  rw [spanDigits, digits.takeWhile_append ends, digits.dropWhile_append ends]

/-- Digits alone are split off as a whole. -/
theorem spanDigits_self (digits : AllDigits whole) : spanDigits whole = (whole, []) := by
  have split : spanDigits (whole ++ []) = (whole, []) := spanDigits_append digits (by simp)
  rwa [List.append_nil] at split

/-- A text that begins with neither a digit nor a sign nor a point is no literal. -/
theorem ofText?_eq_none {c : Char} {rest : List Char}
    (other : c.isDigit = false ∧ c ≠ '+' ∧ c ≠ '-' ∧ c ≠ '.') : ofText? (c :: rest) = none := by
  obtain ⟨notDigit, notPlus, notMinus, notPoint⟩ := other
  have unsigned : spanSign (c :: rest) = (false, c :: rest) :=
    spanSign_unsigned fun head first => by
      cases first
      exact ⟨notPlus, notMinus⟩
  have split : spanDigits (c :: rest) = ([], c :: rest) := by simp [spanDigits, notDigit]
  simp [ofText?, unsigned, split, notPoint]

/-- Digits are a literal without a fraction. -/
theorem ofText?_digits (digits : AllDigits whole) (nonempty : whole ≠ []) :
    ofText? whole = some ⟨false, whole, [], 0⟩ := by
  have unsigned : spanSign whole = (false, whole) :=
    spanSign_unsigned fun c first => ne_sign_of_isDigit (digits c (List.mem_of_mem_head? first))
  simp [ofText?, unsigned, spanDigits_self digits, nonempty, exponent?]

/-- Digits, a point and digits are a literal with a fraction. -/
theorem ofText?_pointed (digits : AllDigits whole) (nonempty : whole ≠ [])
    (fractionDigits : AllDigits fraction) :
    ofText? (whole ++ '.' :: fraction) = some ⟨false, whole, fraction, 0⟩ := by
  have unsigned : spanSign (whole ++ '.' :: fraction) = (false, whole ++ '.' :: fraction) := by
    refine spanSign_unsigned fun c first => ne_sign_of_isDigit (digits c ?_)
    obtain ⟨lead, rest, rfl⟩ := List.exists_cons_of_ne_nil nonempty
    cases first
    exact List.mem_cons_self
  have split : spanDigits (whole ++ '.' :: fraction) = (whole, '.' :: fraction) :=
    spanDigits_append digits (by simp)
  simp [ofText?, unsigned, split, spanDigits_self fractionDigits, nonempty, exponent?]

end Literal

end PredictionMarket.Decimal
