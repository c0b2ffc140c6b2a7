/-!
# Decimal digits

Natural numbers as texts of decimal digits and back, the removal of zeros at the end
of a digit text, and decimal numbers as an integer times a power of ten.
-/

namespace PredictionMarket.Decimal

/-- The decimal digits of a natural number, without leading zeros. -/
def digits (n : Nat) : List Char := Nat.toDigits 10 n

/-- The number of decimal digits of a natural number. -/
def digitCount (n : Nat) : Nat := (digits n).length

/-- The number that a digit text continues, when `start` was read before it. -/
def valueFrom (start : Nat) : List Char → Nat
  | [] => start
  | c :: rest => valueFrom (start * 10 + (c.toNat - '0'.toNat)) rest

/-- The number that a text of decimal digits denotes; zero for the empty text. -/
def valueOf (text : List Char) : Nat := valueFrom 0 text

/-- The decimal digits of a natural number, filled up with zeros on the left. -/
def paddedDigits (width n : Nat) : List Char :=
  let shown := digits n
  List.replicate (width - shown.length) '0' ++ shown

/-- The decimal text of an integer. -/
def intText (n : Int) : List Char :=
  if n < 0 then '-' :: digits n.natAbs else digits n.natAbs

/-- A digit text without the zeros at its end. -/
def withoutFinalZeros (text : List Char) : List Char :=
  (text.reverse.dropWhile (· == '0')).reverse

/-- A decimal number `coefficient * 10 ^ exponent`. -/
structure Scaled where
  coefficient : Nat
  exponent : Int
deriving DecidableEq

/-- The same number with no zero at the end of its coefficient. -/
def Scaled.normalized (number : Scaled) : Scaled :=
  if divides : number.coefficient ≠ 0 ∧ number.coefficient % 10 = 0 then
    Scaled.normalized ⟨number.coefficient / 10, number.exponent + 1⟩
  else
    number
termination_by number.coefficient
decreasing_by exact Nat.div_lt_self (Nat.pos_of_ne_zero divides.1) (by decide)

/-- Reading goes on where the first part of a text ends. -/
theorem valueFrom_append (start : Nat) (first second : List Char) :
    valueFrom start (first ++ second) = valueFrom (valueFrom start first) second := by
  induction first generalizing start with
  | nil => rfl
  | cons head tail inductionHypothesis => exact inductionHypothesis _

/-- A digit text without its final zeros is a prefix that misses only zeros. -/
theorem withoutFinalZeros_append (text : List Char) :
    ∃ count, withoutFinalZeros text ++ List.replicate count '0' = text := by
  have zeros : ∀ chars : List Char,
      ∃ count, List.replicate count '0' ++ chars.dropWhile (· == '0') = chars := by
    intro chars
    induction chars with
    | nil => exact ⟨0, rfl⟩
    | cons head tail inductionHypothesis =>
      by_cases isZero : head = '0'
      · obtain ⟨count, joined⟩ := inductionHypothesis
        refine ⟨count + 1, ?_⟩
        simp [isZero, List.replicate_succ, joined]
      · exact ⟨0, by simp [isZero]⟩
  obtain ⟨count, joined⟩ := zeros text.reverse
  refine ⟨count, ?_⟩
  have turned := congrArg List.reverse joined
  simpa [withoutFinalZeros] using turned

end PredictionMarket.Decimal
