import PredictionMarket.Json.Quoted

/-!
# Quoted strings are read back

Whatever characters a text has, control characters and quotes among them, its quoted form is
read as the text, and what follows the closing quote is left.
-/

namespace PredictionMarket.Json

/-- The digits of an escaped control character denote it. -/
theorem hexUnit?_escape {n : Nat} (small : n < 32) :
    hexUnit? '0' '0' (hexDigit (n / 16)) (hexDigit (n % 16)) = some n := by
  have all : ∀ n < 32, hexUnit? '0' '0' (hexDigit (n / 16)) (hexDigit (n % 16)) = some n := by
    decide
  exact all n small

/-- A character that needs no escape is read as it is. -/
theorem unquoted?_plain {c : Char} {rest : List Char} (notQuote : c ≠ '"')
    (notBackslash : c ≠ '\\') (notControl : ¬ c < ' ') :
    unquoted? (c :: rest) = (unquoted? rest).map fun read => (c :: read.1, read.2) := by
  rw [unquoted?.eq_def]
  split
  · contradiction
  · next same =>
    cases same
    contradiction
  · next same =>
    cases same
    contradiction
  · next same =>
    cases same
    contradiction
  · next same =>
    cases same
    rw [if_neg (by simp [notControl, notBackslash])]

/-- An escaped character is read as the character. -/
theorem unquoted?_escape_append (c : Char) (rest : List Char) :
    unquoted? (escape c ++ rest) = (unquoted? rest).map fun read => (c :: read.1, read.2) := by
  unfold escape
  -- The seven characters that have an escape of one letter come first.
  iterate 7
    split
    · next same =>
      subst same
      rfl
  split
  · next control =>
    have small : c.toNat < 32 := control
    simp only [List.cons_append, List.nil_append, unquoted?]
    rw [hexUnit?_escape small]
    dsimp only
    rw [if_neg (by omega), if_neg (by omega), Char.ofNat_toNat]
  · next notQuote notBackslash _ _ _ _ _ notControl =>
    exact unquoted?_plain notQuote notBackslash notControl

/-- A quoted text is read as the text, behind its opening quote. -/
theorem unquoted?_quoted (text rest : List Char) :
    unquoted? (text.flatMap escape ++ '"' :: rest) = some (text, rest) := by
  induction text with
  | nil => rfl
  | cons c others inductionHypothesis =>
    rw [List.flatMap_cons, List.append_assoc, unquoted?_escape_append, inductionHypothesis]
    rfl

/-- A quoted text in front of another one. -/
theorem quoted_append (text : String) (rest : List Char) :
    quoted text ++ rest = '"' :: (text.toList.flatMap escape ++ '"' :: rest) := by
  simp [quoted]

end PredictionMarket.Json
