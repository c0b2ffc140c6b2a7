import Mathlib.Data.List.TakeWhile
import Mathlib.Tactic.IntervalCases
import PredictionMarket.Text.Blank

/-!
# Texts that trimming leaves alone

A text whose first and last characters are not blank is its own trimmed form, and the trimmed
form of itself between any blanks. Digits are not blank, so written numbers and dates stay as
they are.
-/

namespace PredictionMarket.Text

/-- A decimal digit is not blank. -/
theorem isBlank_of_isDigit {c : Char} (digit : c.isDigit = true) : isBlank c = false := by
  obtain ⟨least, most⟩ := Char.isDigit_iff_toNat.1 digit
  have lower : 48 ≤ c.toNat := least
  have upper : c.toNat ≤ 57 := most
  rw [← Char.ofNat_toNat c]
  interval_cases c.toNat <;> rfl

/-- Nothing is trimmed in front of a character that is not blank. -/
theorem trimStart_cons {c : Char} (dense : isBlank c = false) (rest : List Char) :
    trimStart (c :: rest) = c :: rest :=
  List.dropWhile_cons_of_neg (by simp [dense])

section Blanks

variable {blanks rest : List Char}

/-- A text of blank characters alone. -/
def AllBlank (text : List Char) : Prop := ∀ c ∈ text, isBlank c = true

instance (text : List Char) : Decidable (AllBlank text) :=
  List.decidableBAll (fun c => isBlank c = true) text

/-- What stands in front of the first character that is not blank is blank. -/
theorem exists_blanks_append (text : List Char) :
    ∃ blanks, AllBlank blanks ∧ text = blanks ++ trimStart text :=
  ⟨text.takeWhile isBlank, fun _ member => List.mem_takeWhile_imp member,
    List.takeWhile_append_dropWhile.symm⟩

/-- Blanks in front of a text are trimmed with those that it begins with. -/
theorem trimStart_append (blank : AllBlank blanks) :
    trimStart (blanks ++ rest) = trimStart rest :=
  List.dropWhile_append_of_pos blank

/-- Blanks are trimmed up to a character that is not blank. -/
theorem trimStart_append_cons {c : Char} (blank : AllBlank blanks) (dense : isBlank c = false) :
    trimStart (blanks ++ c :: rest) = c :: rest := by
  rw [trimStart_append blank, trimStart_cons dense]

/-- Trimming again changes nothing. -/
theorem trimStart_trimStart (text : List Char) : trimStart (trimStart text) = trimStart text := by
  obtain ⟨blanks, blank, split⟩ := exists_blanks_append text
  conv_rhs => rw [split, trimStart_append blank]

end Blanks

/-- A text that does not begin with a blank begins with what is no blank. -/
theorem trimStart_eq_self {text : List Char} (first : ∀ c ∈ text.head?, isBlank c = false) :
    trimStart text = text := by
  cases text with
  | nil => rfl
  | cons c rest => exact trimStart_cons (first c rfl) rest

/-- A text that neither begins nor ends with a blank is its own trimmed form. -/
theorem trim_eq_self {text : List Char} (first : ∀ c ∈ text.head?, isBlank c = false)
    (last : ∀ c ∈ text.getLast?, isBlank c = false) : trim text = text := by
  have turned : ∀ c ∈ text.reverse.head?, isBlank c = false := by
    rw [List.head?_reverse]
    exact last
  rw [trim, trimStart_eq_self first, trimEnd, trimStart_eq_self turned, List.reverse_reverse]

/-- A text without blanks is its own trimmed form. -/
theorem trim_eq_self_of_forall {text : List Char} (dense : ∀ c ∈ text, isBlank c = false) :
    trim text = text :=
  trim_eq_self (fun c first => dense c (List.mem_of_mem_head? first))
    (fun c last => dense c (List.mem_of_mem_getLast? last))

/-- Blanks around a text that neither begins nor ends with one are trimmed. -/
theorem trim_append {lead text trail : List Char} (leadBlank : AllBlank lead)
    (trailBlank : AllBlank trail) (first : ∃ c ∈ text.head?, isBlank c = false)
    (last : ∃ c ∈ text.getLast?, isBlank c = false) : trim (lead ++ (text ++ trail)) = text := by
  -- In front of the other blanks or behind them, the text begins with what is no blank.
  have stops : ∀ {text : List Char}, (∃ c ∈ text.head?, isBlank c = false) → ∀ rest,
      trimStart (text ++ rest) = text ++ rest := by
    rintro text ⟨c, isFirst, dense⟩ rest
    obtain ⟨more, rfl⟩ := List.head?_eq_some_iff.1 isFirst
    exact trimStart_cons dense (more ++ rest)
  have turnedBlank : AllBlank trail.reverse :=
    fun c member => trailBlank c (List.mem_reverse.1 member)
  have turnedFirst : ∃ c ∈ text.reverse.head?, isBlank c = false := by rwa [List.head?_reverse]
  have turned := stops turnedFirst []
  rw [List.append_nil] at turned
  rw [trim, trimStart_append leadBlank, stops first, trimEnd, List.reverse_append,
    trimStart_append turnedBlank, turned, List.reverse_reverse]

/-- Trimming keeps a first character that is not blank. -/
theorem exists_trim_cons {c : Char} (dense : isBlank c = false) (rest : List Char) :
    ∃ kept, trim (c :: rest) = c :: kept := by
  have last : [c].dropWhile isBlank = [c] := List.dropWhile_cons_of_neg (by simp [dense])
  rw [trim, trimStart_cons dense, trimEnd, trimStart, List.reverse_cons, List.dropWhile_append]
  split
  · exact ⟨[], by rw [last]; rfl⟩
  · exact ⟨(rest.reverse.dropWhile isBlank).reverse, by simp⟩

end PredictionMarket.Text
