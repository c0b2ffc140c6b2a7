import Mathlib.Data.List.Basic
import PredictionMarket.Yaml.Printer
import PredictionMarket.Yaml.Scalar

/-!
# Scalars read back

A text without line breaks, control characters and byte order marks is written in one line:
plain, between single quotes or between double quotes. Each of the three is read back as
the text that was written (`plainFrom?_line`, `singleQuotedFrom?_inside`,
`doubleQuotedFrom?_characters`). The readers keep the spaces since the last word apart from
the words, so every lemma speaks of a place behind some spaces.
-/

namespace PredictionMarket.Yaml

/-- Whether a character is a control character of Unicode. -/
def isControl (c : Char) : Bool := c.toNat < 0x20 || (0x7f ≤ c.toNat && c.toNat ≤ 0x9f)

/-- Whether a character may stand in a text that is written in one line: any but control
characters, line breaks and the byte order mark. -/
def isInline (c : Char) : Bool := !isControl c && !isBreak c && c != byteOrderMark

section Characters

variable {c : Char}

/-- A character of a line ends no line. -/
theorem isBreak_of_isInline (inline : isInline c = true) : isBreak c = false := by
  simp only [isInline, Bool.and_eq_true, Bool.not_eq_true'] at inline
  exact inline.1.2

/-- A tab does not stand in a line. -/
theorem ne_tab_of_isInline (inline : isInline c = true) : c ≠ '\t' := by
  rintro rfl
  cases inline

/-- A character of a line is a space or no blank at all. -/
theorem isSpace_of_isInline (inline : isInline c = true) (other : c ≠ ' ') : isSpace c = false := by
  simp [isSpace, other, ne_tab_of_isInline inline]

/-- No line break of two characters begins with a character of a line. -/
theorem not_return_of_isInline (inline : isInline c = true) (rest : List Char) :
    ∀ later, c = '\r' → rest = '\n' :: later → False := by
  rintro later rfl -
  cases inline

/-- Behind a character of a line that is no space a word goes on. -/
theorem endsWord_of_isInline (inline : isInline c = true) (other : c ≠ ' ') :
    endsWord [c] = false := by
  simp [endsWord, isSpace_of_isInline inline other, isBreak_of_isInline inline]

/-- Of the characters of a line two cannot be written as they are. -/
theorem isPrintable_of_isInline (inline : isInline c = true) :
    isPrintable c = true ∨ c = '\ufffe' ∨ c = '\uffff' := by
  simp only [isInline, isControl, Bool.and_eq_true, Bool.not_eq_true', Bool.or_eq_false_iff,
    decide_eq_false_iff_not, Bool.and_eq_false_iff, bne_iff_ne] at inline
  obtain ⟨⟨⟨low, high⟩, -⟩, noMark⟩ := inline
  by_cases printable : isPrintable c = true
  · exact .inl printable
  · simp only [isPrintable, Bool.or_eq_true, Bool.and_eq_true, decide_eq_true_eq, not_or, not_and,
      bne_iff_ne, ne_eq, Char.le_def, UInt32.le_iff_toNat_le, Char.reduceVal,
      UInt32.reduceToNat] at printable
    obtain ⟨⟨⟨-, ascii⟩, basic⟩, beyond⟩ := printable
    have code : c.val.toNat = c.toNat := rfl
    rw [code] at ascii basic
    have place : c.toNat = 0xfffe ∨ c.toNat = 0xffff := by
      have notBasic : 0xa0 ≤ c.toNat → ¬ c.toNat ≤ 0xfffd :=
        fun least most => basic ⟨least, most⟩ noMark
      omega
    have same : ∀ other : Char, c.toNat = other.toNat → c = other := fun other => Char.toNat_inj.1
    exact .inr (place.imp (same '\ufffe') (same '\uffff'))

/-- What can be written as it is may stand in a text as it is. -/
theorem isAllowed_of_isPrintable (printable : isPrintable c = true) : isAllowed c = true := by
  simp only [isPrintable, Bool.or_eq_true, Bool.and_eq_true, beq_iff_eq] at printable
  simp only [isAllowed, Bool.or_eq_true, Bool.and_eq_true, beq_iff_eq]
  tauto

end Characters

/-- More text before a scalar with more text before it. -/
@[simp] theorem Scanned.prepend_prepend (scanned : Scanned) (before inner : List Char) :
    (scanned.prepend inner).prepend before = scanned.prepend (before ++ inner) := by
  simp [Scanned.prepend]

/-- A word that goes on does so whatever stands behind the text. -/
theorem endsWord_append {text : List Char} (goesOn : endsWord text = false) (rest : List Char) :
    endsWord (text ++ rest) = false := by
  cases text with
  | nil => cases goesOn
  | cons c text => exact goesOn

/-- Whether a character may stand in the name of a field: a letter or a low line. -/
def isFieldCharacter (c : Char) : Bool :=
  ('a' ≤ c && c ≤ 'z') || ('A' ≤ c && c ≤ 'Z') || c == '_'

/-- The characters of names have no meaning of their own. -/
theorem isFieldCharacter_spec {c : Char} (letter : isFieldCharacter c = true) :
    isIndicator c = false ∧ isSpace c = false ∧ isBreak c = false ∧ isControl c = false ∧
      c ≠ byteOrderMark := by
  simp only [isFieldCharacter, Bool.or_eq_true, Bool.and_eq_true, decide_eq_true_eq, beq_iff_eq,
    Char.le_def, UInt32.le_iff_toNat_le, Char.reduceVal, UInt32.reduceToNat, ← Char.toNat_inj,
    Char.reduceToNat] at letter
  have code : c.val.toNat = c.toNat := rfl
  rw [code] at letter
  refine ⟨Bool.eq_false_iff.2 fun indicator => ?_, Bool.eq_false_iff.2 fun space => ?_,
    Bool.eq_false_iff.2 fun ending => ?_, Bool.eq_false_iff.2 fun control => ?_, ?_⟩
  · simp only [isIndicator, isFlowIndicator, Bool.or_eq_true, beq_iff_eq, ← Char.toNat_inj,
      Char.reduceToNat] at indicator
    omega
  · simp only [isSpace, Bool.or_eq_true, beq_iff_eq, ← Char.toNat_inj, Char.reduceToNat] at space
    omega
  · simp only [isBreak, Bool.or_eq_true, beq_iff_eq, ← Char.toNat_inj, Char.reduceToNat] at ending
    omega
  · simp only [isControl, Bool.or_eq_true, Bool.and_eq_true, decide_eq_true_eq] at control
    omega
  · rintro rfl
    simp [byteOrderMark] at letter

/-- The characters of names may stand in a line. -/
theorem isInline_of_isFieldCharacter {c : Char} (letter : isFieldCharacter c = true) :
    isInline c = true := by
  obtain ⟨-, -, noBreak, noControl, noMark⟩ := isFieldCharacter_spec letter
  simp [isInline, noBreak, noControl, noMark]

/-- The characters of names are no spaces. -/
theorem ne_space_of_isFieldCharacter {c : Char} (letter : isFieldCharacter c = true) :
    c ≠ ' ' := by
  rintro rfl
  cases letter

/-- No document mark begins with a character of a name. -/
theorem isDocumentMark_of_isFieldCharacter {c : Char} (letter : isFieldCharacter c = true)
    (rest : List Char) : isDocumentMark (c :: rest) = false := by
  unfold isDocumentMark
  split
  · next same => cases same; cases letter
  · next same => cases same; cases letter
  · rfl

/-- What may follow a field: nothing, or another field whose name begins in a column below
the given one. -/
inductive Follows (below : Nat) : List Char → Prop where
  | nothing : Follows below []
  | field {column : Nat} {c : Char} {rest : List Char} (indented : column < below)
      (begins : isFieldCharacter c = true) :
      Follows below (List.replicate column ' ' ++ c :: rest)

/-- What may follow a field may do so below a greater column. -/
theorem Follows.mono {below most : Nat} {text : List Char} (follows : Follows below text)
    (bounded : below ≤ most) : Follows most text := by
  cases follows with
  | nothing => exact .nothing
  | field indented begins => exact .field (Nat.lt_of_lt_of_le indented bounded) begins

section Plain

variable {indent index line column : Nat} {gap text stop : List Char} {inWord : Bool}

/-- A space inside a plain scalar is kept for the next word. -/
theorem plainFrom?_space (inWord : Bool) (rest : List Char) :
    plainFrom? false indent (.spaces gap) inWord index line column (' ' :: rest) =
      plainFrom? false indent (.spaces (gap ++ [' '])) false (index + 1) line (column + 1)
        rest := by
  rw [plainFrom?.eq_3 _ _ _ _ _ _ _ _ _ (by simp)]
  simp [isBreak, isSpace, Gap.isBroken, Gap.addSpace]

/-- A character inside a plain scalar stands behind the spaces before it. -/
theorem plainFrom?_character {c : Char} {rest : List Char} (inline : isInline c = true)
    (dense : c ≠ ' ') (noComment : inWord = false → c ≠ '#')
    (noMark : column = 0 → isDocumentMark (c :: rest) = false)
    (goesOn : endsPlain false (c :: rest) = false) :
    plainFrom? false indent (.spaces gap) inWord index line column (c :: rest) =
      (plainFrom? false indent .none true (index + 1) line (column + 1) rest).map
        (·.prepend (gap ++ [c])) := by
  have noBreak := isBreak_of_isInline inline
  have notHere : (!inWord && (c == '#' || (column == 0 && isDocumentMark (c :: rest)))) =
      false := by
    cases inWord with
    | true => rfl
    | false => cases column <;> simp [noComment, noMark]
  rw [plainFrom?.eq_3 _ _ _ _ _ _ _ _ _ (not_return_of_isInline inline rest)]
  simp only [noBreak, isSpace_of_isInline inline dense, Cursor.atDocumentMark, Gap.isBroken,
    Bool.false_and, Bool.or_false, notHere, goesOn, Bool.false_eq_true, if_false, Gap.text]

/-- A row of characters inside a plain scalar, of which none ends it, is read as it is. -/
theorem plainFrom?_append (inline : ∀ c ∈ text, isInline c = true) (nonempty : text ≠ [])
    (dense : text.getLast? ≠ some ' ') (unmarked : Style.hasMark (!inWord) text = false)
    (noMark : column = 0 → isDocumentMark (text ++ stop) = false) :
    plainFrom? false indent (.spaces gap) inWord index line column (text ++ stop) =
      (plainFrom? false indent .none true (index + text.length) line (column + text.length)
        stop).map (·.prepend (gap ++ text)) := by
  -- A space lengthens the gap, and any other character ends it, so the gap varies.
  induction text generalizing gap inWord index column with
  | nil => exact absurd rfl nonempty
  | cons c rest inductionHypothesis =>
    obtain ⟨here, later⟩ := List.forall_mem_cons.1 inline
    simp only [Style.hasMark, Bool.or_eq_false_iff] at unmarked
    obtain ⟨⟨noColon, noComment⟩, laterUnmarked⟩ := unmarked
    have further : ∀ n m : Nat, n + 1 + m = n + (m + 1) := fun n m => by omega
    by_cases space : c = ' '
    · subst space
      have more : rest ≠ [] := by
        rintro rfl
        exact dense rfl
      have laterDense : rest.getLast? ≠ some ' ' := by
        rwa [List.getLast?_cons_of_ne_nil more] at dense
      have following : plainFrom? false indent (.spaces (gap ++ [' '])) false (index + 1) line
          (column + 1) (rest ++ stop) = _ :=
        inductionHypothesis later more laterDense laterUnmarked (fun start => by omega)
      rw [List.cons_append, plainFrom?_space, following, further, further, List.append_assoc]
      rfl
    · have goesOn : endsPlain false (c :: (rest ++ stop)) = false := by
        unfold endsPlain
        split
        case h_1 same =>
          cases same
          exact endsWord_append (by simpa using noColon) stop
        case h_2 => rfl
        case h_3 empty => cases empty
      have first : plainFrom? false indent (.spaces gap) inWord index line column
          (c :: (rest ++ stop)) = _ :=
        plainFrom?_character here space
          (fun outside isHash => by simp [outside, isHash] at noComment) noMark goesOn
      rw [List.cons_append, first]
      rw [endsWord_of_isInline here space] at laterUnmarked
      cases rest with
      | nil => rfl
      | cons next rest =>
        have following : plainFrom? false indent (.spaces []) true (index + 1) line (column + 1)
            (next :: rest ++ stop) = _ :=
          inductionHypothesis later (by simp) (by simpa using dense) laterUnmarked
            (fun start => by omega)
        rw [Gap.none, following, Option.map_map, further, further]
        simp [Function.comp_def, Gap.none]

/-- A plain scalar ends at a colon that ends a key. -/
theorem plainFrom?_colon {more : List Char} (ends : endsWord more = true) :
    plainFrom? false indent .none true index line column (':' :: more) =
      some ⟨[], ⟨':' :: more, index, line, column⟩, false⟩ := by
  rw [plainFrom?.eq_3 _ _ _ _ _ _ _ _ _ (by simp)]
  simp [isBreak, isSpace, endsPlain, ends, Gap.isBroken, Gap.none]

/-- A row of characters of which none ends a plain scalar is read as it is, up to a colon that
ends a key. -/
theorem plainFrom?_key {more : List Char} (inline : ∀ c ∈ text, isInline c = true)
    (nonempty : text ≠ []) (dense : text.getLast? ≠ some ' ')
    (unmarked : Style.hasMark true text = false)
    (noMark : isDocumentMark (text ++ ':' :: more) = false) (ends : endsWord more = true) :
    plainFrom? false indent .none false index line column (text ++ ':' :: more) =
      some ⟨text, ⟨':' :: more, index + text.length, line, column + text.length⟩, false⟩ := by
  have whole : plainFrom? false indent (.spaces []) false index line column
      (text ++ ':' :: more) = _ :=
    plainFrom?_append inline nonempty dense unmarked fun _ => noMark
  rw [Gap.none, whole, plainFrom?_colon ends]
  simp [Scanned.prepend]

/-- Behind a line break a plain scalar ends at a field of the record in which it stands. -/
theorem plainFrom?_follows {below : Nat} (follows : Follows below stop) (inside : below ≤ indent)
    (index line : Nat) (first : Char) (later : List Char) :
    plainFrom? false indent (.lines first later) false index line 0 stop =
      some ⟨[], (Cursor.mk stop index line 0).skipWhile (· == ' '), true⟩ := by
  cases follows with
  | nothing => rfl
  | @field width c rest indented begins =>
    have noSpace := ne_space_of_isFieldCharacter begins
    obtain ⟨-, noBlank, noBreak, -, -⟩ := isFieldCharacter_spec begins
    have noReturn := not_return_of_isInline (isInline_of_isFieldCharacter begins) rest
    have behind : ∀ index column, column + width < indent →
        plainFrom? false indent (.lines first later) false index line column
          (List.replicate width ' ' ++ c :: rest) =
        some ⟨[], ⟨c :: rest, index + width, line, column + width⟩, true⟩ := by
      clear indented
      induction width with
      | zero =>
        intro index column bounded
        have outside : column < indent := bounded
        rw [List.replicate_zero, List.nil_append, plainFrom?.eq_3 _ _ _ _ _ _ _ _ _ noReturn]
        simp [noBreak, noBlank, Gap.isBroken, outside]
      | succ width inductionHypothesis =>
        intro index column bounded
        rw [List.replicate_succ, List.cons_append, plainFrom?.eq_3 _ _ _ _ _ _ _ _ _ (by simp)]
        have further := inductionHypothesis (index + 1) (column + 1) (by omega)
        simp only [isBreak, isSpace, Gap.isBroken, Gap.addSpace, further]
        simp [Nat.add_comm, Nat.add_left_comm]
    rw [behind index 0 (by omega), Cursor.skipWhile, Cursor.skip]
    simp [noSpace]

/-- A line of characters of which none ends a plain scalar is read as it is, up to the next
field. -/
theorem plainFrom?_line {below : Nat} {tail : List Char} (inline : ∀ c ∈ text, isInline c = true)
    (nonempty : text ≠ []) (dense : text.getLast? ≠ some ' ')
    (unmarked : Style.hasMark true text = false) (notFirst : column ≠ 0)
    (follows : Follows below tail) (inside : below ≤ indent) :
    plainFrom? false indent .none false index line column (text ++ '\n' :: tail) =
      some ⟨text, (Cursor.mk tail (index + text.length + 1) (line + 1) 0).skipWhile (· == ' '),
        true⟩ := by
  have whole : plainFrom? false indent (.spaces []) false index line column
      (text ++ '\n' :: tail) = _ :=
    plainFrom?_append inline nonempty dense unmarked fun first => absurd first notFirst
  rw [Gap.none, whole, plainFrom?.eq_3 _ _ _ _ _ _ _ _ _ (by simp)]
  have ends := plainFrom?_follows follows inside (index + text.length + 1) (line + 1) '\n' []
  simp [isBreak, Gap.addBreak, Gap.none, keptBreak, ends, Scanned.prepend]

end Plain

section Quoted

variable {index line column : Nat} {gap text tail : List Char}

/-- A character between single quotes stands behind the spaces before it. -/
theorem singleQuotedFrom?_character {c : Char} {rest : List Char} (inline : isInline c = true)
    (dense : c ≠ ' ') (noQuote : c ≠ '\'') (notFirst : column ≠ 0) :
    singleQuotedFrom? (.spaces gap) index line column (c :: rest) =
      (singleQuotedFrom? .none (index + 1) line (column + 1) rest).map
        (·.prepend (gap ++ [c])) := by
  have noBreak := isBreak_of_isInline inline
  rw [singleQuotedFrom?.eq_4 _ _ _ _ _ _ (fun _ isQuote => absurd isQuote noQuote)
    (not_return_of_isInline inline rest)]
  simp [noQuote, noBreak, isSpace_of_isInline inline dense, notFirst, Gap.text]

/-- A line between single quotes is read back behind the opening quote, up to the line break
behind the closing one. -/
theorem singleQuotedFrom?_inside (inline : ∀ c ∈ text, isInline c = true) (indent : Nat)
    (notFirst : column ≠ 0) :
    ∃ behind place, singleQuotedFrom? (.spaces gap) index line column
        (singleQuoted.inside indent false text ++ '\n' :: tail) =
      some ⟨gap ++ text, ⟨'\n' :: tail, behind, line, place⟩, false⟩ := by
  induction text generalizing gap index column with
  | nil =>
    refine ⟨index + 1, column + 1, ?_⟩
    have closing : singleQuoted.inside indent false [] ++ '\n' :: tail =
        '\'' :: '\n' :: tail := rfl
    rw [closing, singleQuotedFrom?.eq_4 _ _ _ _ _ _ (by simp) (by simp)]
    simp [Gap.text]
  | cons c rest inductionHypothesis =>
    obtain ⟨here, later⟩ := List.forall_mem_cons.1 inline
    have written : singleQuoted.inside indent false (c :: rest) =
        (if c = '\'' then ['\'', '\''] else [c]) ++ singleQuoted.inside indent false rest := by
      simp [singleQuoted.inside, isBreak_of_isInline here]
    rw [written, List.append_assoc]
    by_cases quote : c = '\''
    · subst quote
      have read : ∃ behind place, singleQuotedFrom? (.spaces []) (index + 2) line (column + 2)
          (singleQuoted.inside indent false rest ++ '\n' :: tail) = some _ :=
        inductionHypothesis later (Nat.add_one_ne_zero (column + 1))
      obtain ⟨behind, place, read⟩ := read
      refine ⟨behind, place, ?_⟩
      have step : singleQuotedFrom? (.spaces gap) index line column
          ('\'' :: '\'' :: (singleQuoted.inside indent false rest ++ '\n' :: tail)) = _ :=
        singleQuotedFrom?.eq_2 ..
      exact step.trans (by simp [Gap.none, read, Scanned.prepend, Gap.text])
    · rw [if_neg quote]
      by_cases space : c = ' '
      · subst space
        have read : ∃ behind place, singleQuotedFrom? (.spaces (gap ++ [' '])) (index + 1) line
            (column + 1) (singleQuoted.inside indent false rest ++ '\n' :: tail) = some _ :=
          inductionHypothesis later (Nat.add_one_ne_zero column)
        obtain ⟨behind, place, read⟩ := read
        refine ⟨behind, place, ?_⟩
        have step : singleQuotedFrom? (.spaces gap) index line column
            (' ' :: (singleQuoted.inside indent false rest ++ '\n' :: tail)) = _ :=
          singleQuotedFrom?.eq_4 _ _ _ _ _ _ (by simp) (by simp)
        exact step.trans (by simp [isBreak, isSpace, Gap.addSpace, read])
      · have read : ∃ behind place, singleQuotedFrom? (.spaces []) (index + 1) line
            (column + 1) (singleQuoted.inside indent false rest ++ '\n' :: tail) = some _ :=
          inductionHypothesis later (Nat.add_one_ne_zero column)
        obtain ⟨behind, place, read⟩ := read
        refine ⟨behind, place, (singleQuotedFrom?_character here space quote notFirst).trans ?_⟩
        simp [Gap.none, read, Scanned.prepend]

/-- Characters of an escape are passed. -/
theorem doubleQuotedFrom?_skip (gap : Gap) (passed rest : List Char) :
    doubleQuotedFrom? gap passed.length index line column (passed ++ rest) =
      doubleQuotedFrom? gap 0 (index + passed.length) line (column + passed.length) rest := by
  induction passed generalizing index column with
  | nil => rfl
  | cons c passed inductionHypothesis =>
    rw [List.length_cons, List.cons_append, doubleQuotedFrom?, inductionHypothesis]
    simp only [Nat.add_comm, Nat.add_left_comm]

/-- Between double quotes a character of a line stands for itself, or an escape stands
for it. -/
theorem doubleQuotedCharacter_cases {c : Char} (inline : isInline c = true) :
    (doubleQuotedCharacter c = [c] ∧ c ≠ '"' ∧ c ≠ '\\') ∨
      c ≠ ' ' ∧ ∃ letter digits, doubleQuotedCharacter c = '\\' :: letter :: digits ∧
        isBreak letter = false ∧
        ∀ rest, escapeAt? (letter :: digits ++ rest) = some (c, digits.length + 1) := by
  obtain printable | rfl | rfl := isPrintable_of_isInline inline
  · by_cases quote : c = '"'
    · subst quote
      exact .inr ⟨by decide, '"', [], rfl, rfl, fun _ => rfl⟩
    · by_cases backslash : c = '\\'
      · subst backslash
        exact .inr ⟨by decide, '\\', [], rfl, rfl, fun _ => rfl⟩
      · refine .inl ⟨?_, quote, backslash⟩
        simp [doubleQuotedCharacter, printable, isBreak_of_isInline inline, quote, backslash]
  · exact .inr ⟨by decide, 'u', ['f', 'f', 'f', 'e'].map Char.toUpper, rfl, rfl, fun _ => rfl⟩
  · exact .inr ⟨by decide, 'u', ['f', 'f', 'f', 'f'].map Char.toUpper, rfl, rfl, fun _ => rfl⟩


/-- A space between double quotes is kept for the next word. -/
theorem doubleQuotedFrom?_space (rest : List Char) :
    doubleQuotedFrom? (.spaces gap) 0 index line column (doubleQuotedCharacter ' ' ++ rest) =
      doubleQuotedFrom? (.spaces (gap ++ [' '])) 0 (index + 1) line (column + 1) rest := by
  have written : doubleQuotedCharacter ' ' ++ rest = ' ' :: rest := rfl
  cases rest <;> simp [written, doubleQuotedFrom?, isBreak, isSpace, Gap.addSpace]

/-- A character between double quotes stands behind the spaces before it, however it is
written. -/
theorem doubleQuotedFrom?_character {c : Char} {rest : List Char} (inline : isInline c = true)
    (dense : c ≠ ' ') (notFirst : column ≠ 0) :
    doubleQuotedFrom? (.spaces gap) 0 index line column (doubleQuotedCharacter c ++ rest) =
      (doubleQuotedFrom? .none 0 (index + (doubleQuotedCharacter c).length) line
        (column + (doubleQuotedCharacter c).length) rest).map (·.prepend (gap ++ [c])) := by
  obtain ⟨written, noQuote, noEscape⟩ | ⟨-, letter, digits, written, goesOn, meant⟩ :=
    doubleQuotedCharacter_cases inline
  · have noReturn : c ≠ '\r' := by
      rintro rfl
      cases inline
    rw [written, List.singleton_append]
    cases rest with
    | nil =>
      rw [doubleQuotedFrom?.eq_3]
      simp [noQuote, noEscape, isBreak_of_isInline inline, isSpace_of_isInline inline dense,
        notFirst, Gap.text]
    | cons next rest =>
      rw [doubleQuotedFrom?.eq_4]
      simp [noQuote, noEscape, noReturn, isBreak_of_isInline inline,
        isSpace_of_isInline inline dense, notFirst, Gap.text]
  · have noReturn : letter ≠ '\r' := by
      rintro rfl
      cases goesOn
    have escape : escapeAt? (letter :: (digits ++ rest)) = _ := meant rest
    have passed : doubleQuotedFrom? .none (digits.length + 1) (index + 1) line (column + 1)
        (letter :: (digits ++ rest)) = _ :=
      doubleQuotedFrom?_skip .none (letter :: digits) rest
    rw [written, List.cons_append, List.cons_append, doubleQuotedFrom?.eq_4]
    have noBreak : isBreak '\\' = false := rfl
    have noSpace : isSpace '\\' = false := rfl
    simp [noReturn, goesOn, escape, passed, noBreak, noSpace, notFirst, Gap.text, Nat.add_assoc,
      Nat.add_comm 1]

/-- A text between double quotes is read back behind the opening quote, up to the line
break behind the closing one. -/
theorem doubleQuotedFrom?_characters (inline : ∀ c ∈ text, isInline c = true)
    (notFirst : column ≠ 0) :
    ∃ behind place, doubleQuotedFrom? (.spaces gap) 0 index line column
        (text.flatMap doubleQuotedCharacter ++ '"' :: '\n' :: tail) =
      some ⟨gap ++ text, ⟨'\n' :: tail, behind, line, place⟩, false⟩ := by
  induction text generalizing gap index column with
  | nil =>
    refine ⟨index + 1, column + 1, ?_⟩
    rw [List.flatMap_nil, List.nil_append, doubleQuotedFrom?.eq_4]
    simp [Gap.text]
  | cons c rest inductionHypothesis =>
    obtain ⟨here, later⟩ := List.forall_mem_cons.1 inline
    rw [List.flatMap_cons, List.append_assoc]
    by_cases space : c = ' '
    · subst space
      have read : ∃ behind place, doubleQuotedFrom? (.spaces (gap ++ [' '])) 0 (index + 1) line
          (column + 1) (rest.flatMap doubleQuotedCharacter ++ '"' :: '\n' :: tail) = some _ :=
        inductionHypothesis later (Nat.add_one_ne_zero column)
      obtain ⟨behind, place, read⟩ := read
      refine ⟨behind, place, ?_⟩
      exact (doubleQuotedFrom?_space _).trans (by simp [read])
    · have read : ∃ behind place, doubleQuotedFrom? (.spaces [])
          0 (index + (doubleQuotedCharacter c).length) line
          (column + (doubleQuotedCharacter c).length)
          (rest.flatMap doubleQuotedCharacter ++ '"' :: '\n' :: tail) = some _ :=
        inductionHypothesis later (by omega)
      obtain ⟨behind, place, read⟩ := read
      refine ⟨behind, place, (doubleQuotedFrom?_character here space notFirst).trans ?_⟩
      simp [Gap.none, read, Scanned.prepend]

end Quoted

end PredictionMarket.Yaml
