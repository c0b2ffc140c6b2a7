import PredictionMarket.Proofs.Yaml.Lexing

/-!
# Records lexed

The text of a record is read as the tokens that its fields stand for
(`Token.ofText?_fieldsText`). The induction is on what is writable: each value is read as its
tokens whatever may follow it, the fields of a record are read one after the other, and the
record ends where a field of an outer record or nothing follows.
-/

namespace PredictionMarket.Yaml

mutual

/-- The tokens of the value of a field. -/
def Entry.tokens : Entry → List Token
  | .text value => [.scalar value.toList (Style.ofText value.toList).spelling]
  | .truth value => [.scalar (if value then "true" else "false").toList .plain]
  | .record fields => .blockMappingStart :: fieldsTokens fields ++ [.blockEnd]

/-- The tokens of the fields of a record. -/
def fieldsTokens : List (String × Entry) → List Token
  | [] => []
  | (name, entry) :: rest =>
    .key :: .scalar name.toList .plain :: .value :: entry.tokens ++ fieldsTokens rest

end

/-- A name that a field may have: letters and low lines, no more of them than may stand
before the colon of a key. -/
structure IsFieldName (name : String) : Prop where
  nonempty : name.toList ≠ []
  letters : ∀ c ∈ name.toList, isFieldCharacter c = true
  short : name.toList.length ≤ 1024

instance (name : String) : Decidable (IsFieldName name) :=
  decidable_of_iff (name.toList ≠ [] ∧ name.toList.all isFieldCharacter = true ∧
      name.toList.length ≤ 1024)
    ⟨fun ⟨nonempty, letters, short⟩ => ⟨nonempty, List.all_eq_true.1 letters, short⟩,
      fun isName => ⟨isName.nonempty, List.all_eq_true.2 isName.letters, isName.short⟩⟩

/-- What can be written so that it is read back: texts of one line, truth values, and records
of at least one field in which every name is one that a field may have. -/
inductive Entry.Writable : Entry → Prop where
  | text {value : String} (inline : ∀ c ∈ value.toList, isInline c = true) :
      Writable (.text value)
  | truth {value : Bool} : Writable (.truth value)
  | record {fields : List (String × Entry)} (nonempty : fields ≠ [])
      (names : ∀ field ∈ fields, IsFieldName field.1)
      (values : ∀ field ∈ fields, Writable field.2) : Writable (.record fields)

namespace Lexer

section Records

variable {tokens result start : List Token} {indents outer : List Nat}
  {index line column place below : Nat} {tail : List Char} {name : String} {entry : Entry}
  {fields : List (String × Entry)}

/-- Behind the colon of a field a word ends. -/
theorem endsWord_entryText (column : Nat) (entry : Entry) (tail : List Char) :
    endsWord (entryText column entry ++ tail) = true := by
  cases entry with
  | text value => rfl
  | truth value => cases value <;> rfl
  | record fields => rfl

/-- The text of fields, taken apart behind the value of the first one. -/
theorem fieldsText_cons_append (column : Nat) (field : String × Entry)
    (rest : List (String × Entry)) (tail : List Char) :
    fieldsText column (field :: rest) ++ tail =
      List.replicate column ' ' ++ field.1.toList ++
        ':' :: (entryText column field.2 ++ (fieldsText column rest ++ tail)) := by
  simp [fieldsText]

/-- More fields may follow a field of a record. -/
theorem follows_fieldsText (names : ∀ field ∈ fields, IsFieldName field.1)
    (follows : Follows below tail) (inner : below ≤ column + 1) :
    Follows (column + 1) (fieldsText column fields ++ tail) := by
  cases fields with
  | nil => exact follows.mono inner
  | cons field rest =>
    have isName := names field List.mem_cons_self
    obtain ⟨c, later, name⟩ := List.exists_cons_of_ne_nil isName.nonempty
    have letter : isFieldCharacter c = true := isName.letters c (by simp [name])
    simp only [fieldsText, name, List.append_assoc, List.cons_append]
    exact .field (Nat.lt_succ_self column) letter

/-- The value of a field is read behind its colon as its tokens, whatever may follow the
field. -/
def ReadsBack (entry : Entry) : Prop :=
  ∀ {tokens result : List Token} {outer : List Nat} {index line column place below : Nat}
    {tail : List Char}, Follows below tail → below ≤ column + 1 → column ≤ place →
    (∀ index line, (atLine tail index line (entry.tokens.reverse ++ tokens)
      (column :: outer)).Yields result) →
    (between ⟨entryText column entry ++ tail, index, line, place⟩ false tokens
      (column :: outer)).Yields result

/-- A field is read as its name and its value. -/
theorem Yields.of_field (isName : IsFieldName name) (value : ReadsBack entry)
    (opens : Opens column indents outer start) (follows : Follows below tail)
    (inner : below ≤ column + 1)
    (yields : ∀ index line, (atLine tail index line (entry.tokens.reverse ++
      .value :: .scalar name.toList .plain :: .key :: (start ++ tokens)) (column :: outer)).Yields
        result) :
    (atLine (List.replicate column ' ' ++ name.toList ++ ':' :: (entryText column entry ++ tail))
      index line tokens indents).Yields result := by
  refine .of_name isName.letters isName.nonempty isName.short opens
    (endsWord_entryText column entry tail) ?_
  exact value follows inner (by omega) yields

/-- The fields behind the first one of a record are read as their tokens. -/
theorem Yields.of_fields (names : ∀ field ∈ fields, IsFieldName field.1)
    (values : ∀ field ∈ fields, ReadsBack field.2) (follows : Follows below tail)
    (inner : below ≤ column + 1)
    (yields : ∀ index line, (atLine tail index line ((fieldsTokens fields).reverse ++ tokens)
      (column :: outer)).Yields result) :
    (atLine (fieldsText column fields ++ tail) index line tokens (column :: outer)).Yields
      result := by
  induction fields generalizing tokens index line with
  | nil => exact yields index line
  | cons field rest inductionHypothesis =>
    obtain ⟨isName, laterNames⟩ := List.forall_mem_cons.1 names
    obtain ⟨value, laterValues⟩ := List.forall_mem_cons.1 values
    rw [fieldsText_cons_append]
    refine .of_field isName value .goesOn (follows_fieldsText laterNames follows inner)
      (Nat.le_refl _) fun index line => inductionHypothesis laterNames laterValues ?_
    simpa [fieldsTokens] using yields

/-- A record inside all open ones is read as its tokens, up to a field of an outer record. -/
theorem Yields.of_record (nonempty : fields ≠ []) (names : ∀ field ∈ fields, IsFieldName field.1)
    (values : ∀ field ∈ fields, ReadsBack field.2)
    (inside : ∀ indent ∈ indents.head?, indent < column) (follows : Follows below tail)
    (outside : below ≤ column)
    (yields : ∀ index line, (atLine tail index line ((Entry.record fields).tokens.reverse ++ tokens)
      indents).Yields result) :
    (atLine (fieldsText column fields ++ tail) index line tokens indents).Yields result := by
  obtain ⟨field, rest, rfl⟩ := List.exists_cons_of_ne_nil nonempty
  obtain ⟨isName, laterNames⟩ := List.forall_mem_cons.1 names
  obtain ⟨value, laterValues⟩ := List.forall_mem_cons.1 values
  have inner : below ≤ column + 1 := Nat.le_succ_of_le outside
  rw [fieldsText_cons_append]
  refine .of_field isName value (.begins inside) (follows_fieldsText laterNames follows inner)
    (Nat.le_refl _) fun index line => .of_fields laterNames laterValues follows inner
      fun index line => .of_blockEnd follows outside ?_
  simpa [Entry.tokens, fieldsTokens] using yields index line

/-- What is writable is read back. -/
theorem readsBack (writable : entry.Writable) : ReadsBack entry := by
  -- A record needs the statement for its values in the columns of its own fields.
  induction writable with
  | text inline =>
    intro tokens result outer index line column place below tail follows inner inside yields
    exact .of_text inline follows inner inside yields (column + 2)
  | @truth value =>
    intro tokens result outer index line column place below tail follows inner inside yields
    have plain : IsPlain (if value then "true" else "false").toList := by
      cases value <;> exact .of_letters (List.all_eq_true.1 rfl) (by decide)
    have text : entryText column (.truth value) ++ tail =
        ' ' :: ((if value then "true" else "false").toList ++ '\n' :: tail) := by
      cases value <;> rfl
    rw [text]
    exact .of_plain plain follows inner inside yields
  | record nonempty names _ values =>
    intro tokens result outer index line column place below tail follows inner inside yields
    refine .of_break (.of_record nonempty names values ?_ follows ?_ yields)
    · rintro indent opened
      cases opened
      omega
    · omega

/-- The text of a record is read as its tokens. -/
theorem tokens?_fieldsText (writable : (Entry.record fields).Writable) :
    (Lexer.start (fieldsText 0 fields)).tokens? ((fieldsText 0 fields).length + 1) =
      some (Entry.record fields).tokens := by
  cases writable with
  | record nonempty names values =>
    have yields : (atLine (fieldsText 0 fields ++ []) 0 0 [] []).Yields
        (Entry.record fields).tokens := by
      refine .of_record nonempty names (fun field member => readsBack (values field member))
        (by simp) .nothing (Nat.le_refl 0) fun index line => ⟨1, by simp, ?_⟩
      simp [tokens?, toToken, atLine, between, skipGap, settled?, PendingKey.settled?,
        endAllBlocks, inFlow, withoutKey?]
    rw [List.append_nil] at yields
    exact yields.tokens?_eq

end Records

end Lexer

/-- Fields whose values are written in characters that a text may hold are written in such
characters. -/
theorem allowed_fieldsText {fields : List (String × Entry)}
    (names : ∀ field ∈ fields, IsFieldName field.1)
    (values : ∀ field ∈ fields, ∀ indent, (entryText indent field.2).all isAllowed = true)
    (indent : Nat) : (fieldsText indent fields).all isAllowed = true := by
  induction fields with
  | nil => rfl
  | cons field rest inductionHypothesis =>
    obtain ⟨isName, laterNames⟩ := List.forall_mem_cons.1 names
    obtain ⟨value, laterValues⟩ := List.forall_mem_cons.1 values
    have space : isAllowed ' ' = true := rfl
    have colon : isAllowed ':' = true := rfl
    have name : field.1.toList.all isAllowed = true := by
      refine List.all_eq_true.2 fun c member => ?_
      have letter := isName.letters c member
      obtain printable | rfl | rfl :=
        isPrintable_of_isInline (isInline_of_isFieldCharacter letter)
      · exact isAllowed_of_isPrintable printable
      · cases letter
      · cases letter
    simp [fieldsText, space, colon, name, value, inductionHypothesis laterNames laterValues]

/-- What is writable is written in characters that a text may hold. -/
theorem allowed_entryText {entry : Entry} (writable : entry.Writable) (indent : Nat) :
    (entryText indent entry).all isAllowed = true := by
  induction writable generalizing indent with
  | text inline =>
    have space : isAllowed ' ' = true := rfl
    simp [entryText, space, -List.all_eq_true, allowed_scalarText inline]
  | @truth value => cases value <;> rfl
  | record _ names _ values =>
    have lineFeed : isAllowed '\n' = true := rfl
    simp [entryText, lineFeed, -List.all_eq_true, allowed_fieldsText names values]

/-- The text of a record is read as the tokens of the record. -/
theorem Token.ofText?_fieldsText {fields : List (String × Entry)}
    (writable : (Entry.record fields).Writable) :
    Token.ofText? (fieldsText 0 fields) = some (Entry.record fields).tokens := by
  have allowed : (fieldsText 0 fields).all isAllowed = true := by
    cases writable with
    | record _ names values =>
      exact allowed_fieldsText names (fun field member => allowed_entryText (values field member)) 0
  rw [Token.ofText?, if_pos allowed, Lexer.tokens?_fieldsText writable]

end PredictionMarket.Yaml
