import PredictionMarket.Proofs.Yaml.Scalars

/-!
# Styles

A text of one line is written plain, between single quotes or between double quotes
(`Style.ofText_cases`). It is written plain only where it is read back plain, and in any
style it is written in characters that a text may hold.
-/

namespace PredictionMarket.Yaml

/-- A plain scalar may begin with a character and what stands behind it: with one that has no
meaning of its own, or with a sign that does not stand alone. -/
def BeginsPlain (c : Char) (rest : List Char) : Prop :=
  isIndicator c = false ∨ (c = '-' ∨ c = '?' ∨ c = ':') ∧ endsWord rest = false

section Beginning

variable {c : Char} {rest : List Char}

/-- More text behind the beginning of a plain scalar does not matter. -/
theorem BeginsPlain.append (begins : BeginsPlain c rest) (more : List Char) :
    BeginsPlain c (rest ++ more) :=
  begins.imp_right fun ⟨sign, goesOn⟩ => ⟨sign, endsWord_append goesOn more⟩

/-- A plain scalar begins with no comment. -/
theorem BeginsPlain.ne_comment (begins : BeginsPlain c rest) : c ≠ '#' := by
  rintro rfl
  obtain ordinary | ⟨sign, -⟩ := begins
  · cases ordinary
  · simp at sign

/-- A colon at which a plain scalar begins ends no key. -/
theorem BeginsPlain.not_key (begins : BeginsPlain c rest) :
    (c == ':' && endsWord rest) = false := by
  obtain ordinary | ⟨-, goesOn⟩ := begins
  · have other : c ≠ ':' := by
      rintro rfl
      cases ordinary
    simp [other]
  · simp [goesOn]

/-- What the writer takes for nothing else may begin a plain scalar. -/
theorem beginsPlain_of_hasIndicator (noIndicator : Style.hasIndicator (c :: rest) = false) :
    BeginsPlain c rest := by
  unfold Style.hasIndicator at noIndicator
  split at noIndicator
  · cases noIndicator
  · cases noIndicator
  · next same =>
    cases same
    by_cases sign : (c == '-' || c == '?' || c == ':') = true
    · rw [if_pos sign] at noIndicator
      exact .inr ⟨by simpa [or_assoc] using sign, noIndicator⟩
    · rw [if_neg sign] at noIndicator
      exact .inl noIndicator
  · next same => cases same

end Beginning

/-- A text that is read back where it stands plain in a line. -/
structure IsPlain (text : List Char) : Prop where
  inline : ∀ c ∈ text, isInline c = true
  dense : text.getLast? ≠ some ' '
  unmarked : Style.hasMark true text = false
  begins : ∃ c rest, text = c :: rest ∧ c ≠ ' ' ∧ BeginsPlain c rest

/-- Letters and low lines have no mark among them. -/
theorem hasMark_of_letters {text : List Char} (letters : ∀ c ∈ text, isFieldCharacter c = true)
    (afterBlank : Bool) : Style.hasMark afterBlank text = false := by
  induction text generalizing afterBlank with
  | nil => rfl
  | cons c rest inductionHypothesis =>
    obtain ⟨letter, later⟩ := List.forall_mem_cons.1 letters
    have noColon : c ≠ ':' := by
      rintro rfl
      cases letter
    have noComment : c ≠ '#' := by
      rintro rfl
      cases letter
    simp [Style.hasMark, noColon, noComment, inductionHypothesis later]

/-- Letters and low lines are read back where they stand plain. -/
theorem IsPlain.of_letters {text : List Char} (letters : ∀ c ∈ text, isFieldCharacter c = true)
    (nonempty : text ≠ []) : IsPlain text where
  inline c member := isInline_of_isFieldCharacter (letters c member)
  dense last := ne_space_of_isFieldCharacter (letters ' ' (List.mem_of_getLast? last)) rfl
  unmarked := hasMark_of_letters letters true
  begins := by
    obtain ⟨c, rest, rfl⟩ := List.exists_cons_of_ne_nil nonempty
    have letter := letters c List.mem_cons_self
    exact ⟨c, rest, rfl, ne_space_of_isFieldCharacter letter,
      .inl (isFieldCharacter_spec letter).1⟩

namespace Style

/-- A text is written plain only if it denotes a text. -/
theorem denotesText_of_plain {text : List Char} (style : ofText text = plain) :
    denotesText text = true := by
  unfold ofText at style
  split at style
  · split at style <;> cases style
  · split at style
    · next standsPlain =>
      simp only [Bool.and_eq_true] at standsPlain
      exact standsPlain.1.1
    · split at style <;> cases style

/-- How a text of one line is written: plain only where that is read back, between single
quotes only if every character can be written as it is, or between double quotes. -/
theorem ofText_cases {text : List Char} (inline : ∀ c ∈ text, isInline c = true) :
    (ofText text = plain ∧ IsPlain text ∧ ∀ c ∈ text, isPrintable c = true) ∨
      (ofText text = singleQuoted ∧ ∀ c ∈ text, isPrintable c = true) ∨
      ofText text = doubleQuoted := by
  have oneLine : ¬ text.contains '\n' = true := by
    intro broken
    cases inline '\n' (by simpa using broken)
  by_cases standsPlain : (denotesText text && !isZeroPadded text && isPlainable text) = true
  · refine .inl ⟨by rw [ofText, if_neg oneLine, if_pos standsPlain], ?_⟩
    simp only [Bool.and_eq_true, isPlainable, Bool.not_eq_true', List.all_eq_true,
      bne_iff_ne] at standsPlain
    obtain ⟨⟨denotes, -⟩, ⟨⟨⟨printable, start⟩, dense⟩, noIndicator⟩, unmarked⟩ := standsPlain
    refine ⟨?_, fun c member => (printable c member).1⟩
    cases text with
    | nil => cases denotes
    | cons c rest =>
      have begins := beginsPlain_of_hasIndicator noIndicator
      have unmarkedLater : hasMark (endsWord [c]) rest = false := unmarked
      refine ⟨inline, dense, ?_, c, rest, rfl, by simpa using start, begins⟩
      simp [hasMark, begins.not_key, begins.ne_comment, unmarkedLater]
  · by_cases quotable : isQuotable text = true
    · refine .inr (.inl ⟨by rw [ofText, if_neg oneLine, if_neg standsPlain, if_pos quotable], ?_⟩)
      simp only [isQuotable, Bool.and_eq_true, List.all_eq_true] at quotable
      exact quotable.1.1
    · exact .inr (.inr (by rw [ofText, if_neg oneLine, if_neg standsPlain, if_neg quotable]))

end Style

section Allowed

variable {text : List Char}

/-- Between single quotes stand the characters of the text and more quotes. -/
theorem allowed_singleQuoted (inline : ∀ c ∈ text, isInline c = true)
    (printable : ∀ c ∈ text, isPrintable c = true) (indent : Nat) :
    (singleQuoted.inside indent false text).all isAllowed = true := by
  induction text with
  | nil => rfl
  | cons c rest inductionHypothesis =>
    obtain ⟨here, later⟩ := List.forall_mem_cons.1 inline
    obtain ⟨shown, laterShown⟩ := List.forall_mem_cons.1 printable
    have first : (if c = '\'' then ['\'', '\''] else [c]).all isAllowed = true := by
      split
      · rfl
      · simp [isAllowed_of_isPrintable shown]
    simp only [singleQuoted.inside, isBreak_of_isInline here, Bool.false_eq_true, if_false,
      List.nil_append, List.all_append, first, inductionHypothesis later laterShown, Bool.and_self]

/-- What stands for a character between double quotes may stand in a text. -/
theorem allowed_doubleQuotedCharacter {c : Char} (inline : isInline c = true) :
    (doubleQuotedCharacter c).all isAllowed = true := by
  obtain printable | rfl | rfl := isPrintable_of_isInline inline
  · by_cases quote : c = '"'
    · subst quote
      rfl
    · by_cases backslash : c = '\\'
      · subst backslash
        rfl
      · simp [doubleQuotedCharacter, printable, isBreak_of_isInline inline, quote, backslash,
          isAllowed_of_isPrintable printable]
  · rfl
  · rfl

/-- A text of one line is written in characters that a text may hold. -/
theorem allowed_scalarText (inline : ∀ c ∈ text, isInline c = true) (indent : Nat) :
    (scalarText indent text).all isAllowed = true := by
  have lineFeed : isAllowed '\n' = true := rfl
  have quote : isAllowed '\'' = true := rfl
  have doubleQuote : isAllowed '"' = true := rfl
  obtain ⟨style, -, printable⟩ | ⟨style, printable⟩ | style := Style.ofText_cases inline
  · have shown : text.all isAllowed = true :=
      List.all_eq_true.2 fun c member => isAllowed_of_isPrintable (printable c member)
    simp only [scalarText, style, List.all_append, List.all_cons, List.all_nil, shown, lineFeed,
      Bool.and_self]
  · simp only [scalarText, style, singleQuoted, List.all_append, List.all_cons, List.all_nil,
      allowed_singleQuoted inline printable, lineFeed, quote, Bool.and_self]
  · have shown : (text.flatMap doubleQuotedCharacter).all isAllowed = true := by
      rw [List.all_flatMap, List.all_eq_true]
      exact fun c member => allowed_doubleQuotedCharacter (inline c member)
    simp only [scalarText, style, doubleQuoted, List.all_append, List.all_cons, List.all_nil,
      shown, lineFeed, doubleQuote, Bool.and_self, List.cons_append]

end Allowed

end PredictionMarket.Yaml
