import PredictionMarket.Json.Printer
import PredictionMarket.Json.Numeral
import PredictionMarket.Proofs.Decimal.PlainText

/-!
# Reading numerals in front of other text

A numeral is read up to the first character that cannot continue it, so it is read the same
when such a character follows. The text of an integer is read as the integer.
-/

namespace PredictionMarket

open Decimal (Double Literal spanDigits spanSign valueOf digits digits_ne_nil allDigits_digits
  valueOf_digits intText intText_eq AllDigits)

namespace Json

/-- A text that does not begin with a character that continues a numeral. -/
def EndsNumeral (text : List Char) : Prop :=
  ∀ c ∈ text.head?, c.isDigit = false ∧ c ≠ '.' ∧ c ≠ 'e' ∧ c ≠ 'E'

variable {text shown rest more : List Char}

/-- The end of a text ends a numeral. -/
theorem endsNumeral_nil : EndsNumeral [] := fun _ first => by cases first

/-- The digits in front are the same when something that ends a numeral follows. -/
theorem spanDigits_more (ends : EndsNumeral more) (text : List Char) :
    spanDigits (text ++ more) = ((spanDigits text).1, (spanDigits text).2 ++ more) := by
  induction text with
  | nil =>
    cases more with
    | nil => rfl
    | cons c others => simp [spanDigits, (ends c rfl).1]
  | cons c others inductionHypothesis =>
    simp only [spanDigits, Prod.mk.injEq, List.cons_append] at inductionHypothesis ⊢
    by_cases digit : c.isDigit = true
    · simp [digit, inductionHypothesis]
    · simp [digit]

/-- Digits are read when there is one. -/
theorem someDigits?_eq_some_iff :
    someDigits? text = some (shown, rest) ↔ spanDigits text = (shown, rest) ∧ shown ≠ [] := by
  unfold someDigits?
  split
  · next none =>
    rw [none]
    simp only [reduceCtorEq, Prod.mk.injEq, false_iff]
    rintro ⟨⟨rfl, -⟩, nonempty⟩
    exact nonempty rfl
  · next split notNone =>
    rw [Option.some_inj]
    refine (and_iff_left_of_imp ?_).symm
    rintro split rfl
    exact notNone rest split

/-- Digits that are read are read when something that ends a numeral follows. -/
theorem someDigits?_more (ends : EndsNumeral more) (read : someDigits? text = some (shown, rest)) :
    someDigits? (text ++ more) = some (shown, rest ++ more) := by
  rw [someDigits?_eq_some_iff] at read ⊢
  rw [spanDigits_more ends, read.1]
  exact ⟨rfl, read.2⟩

/-- So is a whole part. -/
theorem wholePart?_more (ends : EndsNumeral more) (read : wholePart? text = some (shown, rest)) :
    wholePart? (text ++ more) = some (shown, rest ++ more) := by
  unfold wholePart? at read
  split at read
  · cases read
    rfl
  · next notZero =>
    have longer := someDigits?_more ends read
    unfold wholePart?
    split
    · next others same =>
      cases text with
      | nil => cases read
      | cons c front =>
        cases same
        exact absurd rfl (notZero front)
    · exact longer

/-- So is a fraction. -/
theorem fractionPart?_more (ends : EndsNumeral more) {fraction : Option (List Char)}
    (read : fractionPart? text = some (fraction, rest)) :
    fractionPart? (text ++ more) = some (fraction, rest ++ more) := by
  unfold fractionPart? at read
  split at read
  · obtain ⟨⟨digits, others⟩, some, shape⟩ := Option.map_eq_some_iff.1 read
    cases shape
    rw [List.cons_append, fractionPart?, someDigits?_more ends some]
    rfl
  · next notPoint =>
    cases read
    unfold fractionPart?
    split
    · next others same =>
      cases text with
      | nil => exact absurd rfl (ends '.' (by rw [← List.nil_append more, same]; rfl)).2.1
      | cons c front =>
        cases same
        exact absurd rfl (notPoint front)
    · rfl

/-- A sign in front of further text is split off. -/
theorem spanSign_more (nonempty : text ≠ []) :
    spanSign (text ++ more) = ((spanSign text).1, (spanSign text).2 ++ more) := by
  obtain ⟨c, others, rfl⟩ := List.exists_cons_of_ne_nil nonempty
  unfold spanSign
  split
  · next same =>
    cases same
    rfl
  · next same =>
    cases same
    rfl
  · next notPlus notMinus =>
    split
    · next same =>
      cases same
      exact (notPlus _ rfl).elim
    · next same =>
      cases same
      exact (notMinus _ rfl).elim
    · rfl

/-- A power of ten that is read is read when something that ends a numeral follows. -/
theorem powerPart?_more (ends : EndsNumeral more) {power : Option Int}
    (read : powerPart? text = some (power, rest)) :
    powerPart? (text ++ more) = some (power, rest ++ more) := by
  cases text with
  | nil =>
    cases read
    cases more with
    | nil => rfl
    | cons c others =>
      obtain ⟨-, -, notSmall, notLarge⟩ := ends c rfl
      exact if_neg (by simp [notSmall, notLarge])
  | cons mark others =>
    rw [powerPart?] at read
    rw [List.cons_append, powerPart?]
    split at read
    · next isMark =>
      rw [if_pos isMark]
      dsimp only at read ⊢
      obtain ⟨⟨digits, behind⟩, some, shape⟩ := Option.map_eq_some_iff.1 read
      have nonempty : others ≠ [] := by
        rintro rfl
        cases some
      cases shape
      rw [spanSign_more nonempty, someDigits?_more ends some]
      rfl
    · next noMark =>
      cases read
      rw [if_neg noMark]
      rfl

/-- Reads the parts of a numeral behind its sign. -/
def unsigned? (negative : Bool) (text : List Char) : Option (Number × List Char) := do
  let (whole, rest) ← wholePart? text
  let (fraction, rest) ← fractionPart? rest
  let (power, rest) ← powerPart? rest
  let literal : Literal :=
    { negative, whole, fraction := fraction.getD [], exponent := power.getD 0 }
  let number ← numberOf? literal (fraction.isNone && power.isNone)
  return (number, rest)

/-- A numeral without a minus. -/
theorem number?_unsigned (unsigned : text.head? ≠ some '-') :
    number? text = unsigned? false text := by
  unfold number?
  split
  next others rest shape =>
    split at shape
    · exact absurd rfl unsigned
    · cases shape
      rfl

/-- The parts behind the sign are read when something that ends a numeral follows. -/
theorem unsigned?_more (ends : EndsNumeral more) {negative : Bool} {number : Number}
    (read : unsigned? negative text = some (number, rest)) :
    unsigned? negative (text ++ more) = some (number, rest ++ more) := by
  unfold unsigned? at read ⊢
  obtain ⟨⟨whole, behindWhole⟩, isWhole, read⟩ := Option.bind_eq_some_iff.1 read
  obtain ⟨⟨fraction, behindFraction⟩, isFraction, read⟩ := Option.bind_eq_some_iff.1 read
  obtain ⟨⟨power, behindPower⟩, isPower, read⟩ := Option.bind_eq_some_iff.1 read
  obtain ⟨number, isNumber, read⟩ := Option.bind_eq_some_iff.1 read
  cases read
  simp only [wholePart?_more ends isWhole, fractionPart?_more ends isFraction,
    powerPart?_more ends isPower, isNumber, Option.bind_eq_bind, Option.bind_some]
  rfl

/-- A numeral that is read is read when something that ends it follows. -/
theorem number?_more (ends : EndsNumeral more) {number : Number}
    (read : number? text = some (number, rest)) :
    number? (text ++ more) = some (number, rest ++ more) := by
  cases text with
  | nil => cases read
  | cons c others =>
    by_cases minus : c = '-'
    · subst minus
      exact unsigned?_more ends read
    · have unsigned : ∀ others : List Char, (c :: others).head? ≠ some '-' :=
        fun _ same => minus (Option.some_inj.1 same)
      rw [number?_unsigned (unsigned _)] at read
      rw [List.cons_append, number?_unsigned (unsigned _), ← List.cons_append]
      exact unsigned?_more ends read

/-- A numeral begins with a minus or a digit. -/
theorem exists_cons_of_number? {number : Number} (read : number? text = some (number, rest)) :
    ∃ c others, text = c :: others ∧ (c = '-' ∨ c.isDigit = true) := by
  cases text with
  | nil => cases read
  | cons c others =>
    refine ⟨c, others, rfl, ?_⟩
    by_contra! other
    obtain ⟨notMinus, notDigit⟩ := other
    have unsigned : (c :: others).head? ≠ some '-' := fun same => notMinus (Option.some_inj.1 same)
    have noWhole : wholePart? (c :: others) = none := by
      unfold wholePart?
      split
      · next same =>
        cases same
        exact absurd rfl notDigit
      · simp [someDigits?, spanDigits, notDigit]
    rw [number?_unsigned unsigned, unsigned?, noWhole] at read
    cases read

/-- The digits of a number are read as a whole part. -/
theorem wholePart?_digits (n : Nat) : wholePart? (digits n) = some (digits n, []) := by
  rcases Nat.eq_zero_or_pos n with rfl | positive
  · rfl
  · unfold wholePart?
    split
    · next same => exact absurd (congrArg List.head? same) (Decimal.head?_digits positive)
    · exact someDigits?_eq_some_iff.2
        ⟨Literal.spanDigits_self (allDigits_digits n), digits_ne_nil n⟩

/-- The text of an integer is read as the integer. -/
theorem number?_integer (word : WordInt) :
    number? (Number.integer word).text = some (.integer word, []) := by
  have isWord : WordInt.ofInt? word.toInt = some word := dif_pos ⟨word.lower, word.upper⟩
  have behindSign : unsigned? (word.toInt < 0) (digits word.toInt.natAbs) =
      some (.integer word, []) := by
    have isNumber : numberOf? ⟨word.toInt < 0, digits word.toInt.natAbs, [], 0⟩ true =
        some (.integer word) := by
      have magnitude : (if decide (word.toInt < 0) = true then -(word.toInt.natAbs : Int)
          else word.toInt.natAbs) = word.toInt := by
        simp only [decide_eq_true_eq]
        split <;> omega
      have notMinusZero : (decide (word.toInt < 0) && (word.toInt.natAbs : Int) == 0) = false := by
        simp only [Bool.and_eq_false_iff, decide_eq_false_iff_not, beq_eq_false_iff_ne]
        omega
      simp only [numberOf?, valueOf_digits, magnitude, notMinusZero, Bool.not_false, Bool.and_self,
        if_true, isWord]
    unfold unsigned?
    rw [wholePart?_digits]
    exact congrArg (Option.bind · fun number => some (number, [])) isNumber
  rw [Number.text, intText_eq]
  by_cases negative : word.toInt < 0
  · rw [decide_eq_true negative] at behindSign ⊢
    exact behindSign
  · rw [decide_eq_false negative] at behindSign ⊢
    refine (number?_unsigned fun minus => ?_).trans behindSign
    cases allDigits_digits _ _ (List.mem_of_mem_head? minus)

end Json

end PredictionMarket
