import Mathlib.Data.List.Induction
import Mathlib.Data.List.TakeWhile
import Mathlib.Tactic.Ring
import PredictionMarket.Decimal.Literal

/-!
# Digits and the numbers they denote

Digit texts and numbers are converted into each other without loss: the digits of a number
denote it, zeros in front change nothing, and zeros at the end are factors of ten. The
number of digits tells the size of a number, and the other way round.
-/

namespace PredictionMarket.Decimal

/-- Every character of a text is a decimal digit. -/
def AllDigits (text : List Char) : Prop := ∀ c ∈ text, c.isDigit = true

instance (text : List Char) : Decidable (AllDigits text) :=
  List.decidableBAll (fun c : Char => c.isDigit = true) text

namespace AllDigits

variable {first second : List Char}

/-- Digits in a row are digits. -/
theorem append (left : AllDigits first) (right : AllDigits second) :
    AllDigits (first ++ second) :=
  fun c member => (List.mem_append.1 member).elim (left c) (right c)

/-- A part of a digit text is a digit text. -/
theorem of_sublist (digits : AllDigits second) (part : first.Sublist second) :
    AllDigits first :=
  fun c member => digits c (part.subset member)

/-- Zeros are digits. -/
theorem replicate_zero (count : Nat) : AllDigits (List.replicate count '0') := by
  intro c member
  rw [(List.mem_replicate.1 member).2]
  rfl

/-- The digits in front of a text that does not go on with a digit. -/
theorem takeWhile_append (digits : AllDigits first)
    (ends : ∀ c ∈ second.head?, c.isDigit = false) :
    (first ++ second).takeWhile Char.isDigit = first := by
  rw [List.takeWhile_append_of_pos digits]
  cases second with
  | nil => simp
  | cons c rest => simp [ends c rfl]

/-- What follows the digits in front of a text that does not go on with a digit. -/
theorem dropWhile_append (digits : AllDigits first)
    (ends : ∀ c ∈ second.head?, c.isDigit = false) :
    (first ++ second).dropWhile Char.isDigit = second := by
  rw [List.dropWhile_append_of_pos digits]
  cases second with
  | nil => rfl
  | cons c rest => simp [ends c rfl]

end AllDigits

/-- A digit text is read by the digits of the core library. -/
theorem valueFrom_eq_ofDigitChars (start : Nat) (text : List Char) :
    valueFrom start text = Nat.ofDigitChars 10 text start := by
  induction text generalizing start with
  | nil => rfl
  | cons c rest inductionHypothesis =>
    rw [Nat.ofDigitChars_cons, Nat.mul_comm 10 start]
    exact inductionHypothesis _

/-- Of two digit texts in a row the first one counts in powers of ten. -/
theorem valueOf_append (first second : List Char) :
    valueOf (first ++ second) = valueOf first * 10 ^ second.length + valueOf second := by
  rw [valueOf, valueFrom_append, valueFrom_eq_ofDigitChars, Nat.ofDigitChars_eq_ofDigitChars_zero,
    ← valueFrom_eq_ofDigitChars, Nat.mul_comm]
  rfl

/-- Zeros denote zero. -/
theorem valueOf_replicate_zero (count : Nat) : valueOf (List.replicate count '0') = 0 := by
  rw [valueOf, valueFrom_eq_ofDigitChars, Nat.ofDigitChars_replicate_zero, Nat.mul_zero]

/-- Zeros in front change nothing. -/
theorem valueOf_replicate_zero_append (count : Nat) (text : List Char) :
    valueOf (List.replicate count '0' ++ text) = valueOf text := by
  rw [valueOf_append, valueOf_replicate_zero, Nat.zero_mul, Nat.zero_add]

/-- Zeros at the end are factors of ten. -/
theorem valueOf_append_replicate_zero (text : List Char) (count : Nat) :
    valueOf (text ++ List.replicate count '0') = valueOf text * 10 ^ count := by
  rw [valueOf_append, valueOf_replicate_zero, List.length_replicate, Nat.add_zero]

/-- A digit text denotes a number below the power of ten of its length. -/
theorem valueOf_lt {text : List Char} (digits : AllDigits text) :
    valueOf text < 10 ^ text.length := by
  induction text using List.reverseRecOn with
  | nil => decide
  | append_singleton front last inductionHypothesis =>
    have frontBelow := inductionHypothesis (digits.of_sublist (List.sublist_append_left _ _))
    have isDigit := digits last (by simp)
    rw [Char.isDigit_iff_toNat] at isDigit
    have lastBelow : valueOf [last] < 10 := by
      change 0 * 10 + (last.toNat - '0'.toNat) < 10
      have zero : '0'.toNat = 48 := rfl
      have nine : '9'.toNat = 57 := rfl
      omega
    rw [valueOf_append, List.length_append, List.length_singleton, pow_succ]
    omega

/-- The digits of a number denote it. -/
@[simp] theorem valueOf_digits (n : Nat) : valueOf (digits n) = n := by
  rw [valueOf, valueFrom_eq_ofDigitChars]
  exact Nat.ofDigitChars_ten_toDigits

/-- The digits of a number are digits. -/
theorem allDigits_digits (n : Nat) : AllDigits (digits n) :=
  fun _ member => Nat.isDigit_of_mem_toDigits (by decide) (by decide) member

/-- Every number has a digit. -/
theorem digits_ne_nil (n : Nat) : digits n ≠ [] := Nat.toDigits_ne_nil

/-- A number is below the power of ten of the number of its digits. -/
theorem lt_pow_digitCount (n : Nat) : n < 10 ^ digitCount n := by
  have below := valueOf_lt (allDigits_digits n)
  rwa [valueOf_digits] at below

/-- A number that is not zero is no less than the power of ten of its first digit. -/
theorem pow_le_of_lt_digitCount {n exponent : Nat} (positive : 0 < n)
    (fewer : exponent < digitCount n) : 10 ^ exponent ≤ n := by
  rcases Nat.eq_zero_or_pos exponent with rfl | several
  · exact positive
  · by_contra below
    have atMost : (Nat.toDigits 10 n).length ≤ exponent :=
      (Nat.length_toDigits_le_iff (by decide) several).2 (not_le.1 below)
    exact absurd fewer (not_lt.2 atMost)

/-- No zero stands in front of the digits of a number. -/
theorem head?_digits {n : Nat} (positive : 0 < n) : (digits n).head? ≠ some '0' := by
  intro zero
  obtain ⟨rest, shape⟩ := List.head?_eq_some_iff.1 zero
  have denoted := valueOf_digits n
  have restDigits : AllDigits rest :=
    (allDigits_digits n).of_sublist (shape ▸ List.sublist_cons_self _ _)
  have shorter : rest.length < digitCount n := by
    rw [digitCount, shape]
    exact Nat.lt_succ_self _
  have atLeast := pow_le_of_lt_digitCount positive shorter
  have below := valueOf_lt restDigits
  rw [shape] at denoted
  have dropped : valueOf ('0' :: rest) = valueOf rest := rfl
  omega

/-- Only the digits of zero begin with a zero. -/
theorem digits_of_head?_zero {n : Nat} (zero : (digits n).head? = some '0') :
    digits n = ['0'] := by
  obtain rfl : n = 0 := by
    by_contra nonzero
    exact head?_digits (Nat.pos_of_ne_zero nonzero) zero
  rfl

section Padded

variable {width n : Nat}

/-- Padded digits are digits. -/
theorem allDigits_paddedDigits (width n : Nat) : AllDigits (paddedDigits width n) :=
  (AllDigits.replicate_zero _).append (allDigits_digits n)

/-- Padded digits denote their number. -/
@[simp] theorem valueOf_paddedDigits (width n : Nat) : valueOf (paddedDigits width n) = n := by
  rw [paddedDigits, valueOf_replicate_zero_append, valueOf_digits]

/-- Padded digits have at least the width that is asked for. -/
theorem le_length_paddedDigits (width n : Nat) : width ≤ (paddedDigits width n).length := by
  simp only [paddedDigits, List.length_append, List.length_replicate]
  omega

/-- Padded digits begin with a digit. -/
theorem exists_paddedDigits_cons (wide : 0 < width) (n : Nat) :
    ∃ c rest, c.isDigit = true ∧ paddedDigits width n = c :: rest := by
  obtain ⟨c, rest, shape⟩ := List.exists_cons_of_length_pos
    (Nat.lt_of_lt_of_le wide (le_length_paddedDigits width n))
  exact ⟨c, rest, allDigits_paddedDigits width n c (shape ▸ List.mem_cons_self), shape⟩

/-- Padded digits have exactly the width that is asked for when the number fits. -/
theorem length_paddedDigits (wide : 0 < width) (fits : n < 10 ^ width) :
    (paddedDigits width n).length = width := by
  have short : (digits n).length ≤ width :=
    (Nat.length_toDigits_le_iff (by decide) wide).2 fits
  simp only [paddedDigits, List.length_append, List.length_replicate]
  omega

end Padded

end PredictionMarket.Decimal
