import PredictionMarket.Proofs.Yaml.Styles
import PredictionMarket.Yaml.Lexer

/-!
# Fields and values lexed

Lexing is followed from the end of a text to its start: what a lexer yields behind a name
or a value is what it yields before it. Between two tokens of a record a lexer is outside of
flow style and remembers no place of a key, so that its state is a place in the text, the
tokens so far and the columns of the open records.
-/

namespace PredictionMarket.Yaml

/-- The spelling that a scalar written in a style has for the reader. -/
def Style.spelling : Style → Spelling
  | plain => .plain
  | literal => .literal
  | singleQuoted | doubleQuoted => .other

namespace Lexer

/-- The lexer reads the remaining tokens in no more steps than there are characters behind
the gap before the next one. -/
def Yields (lexer : Lexer) (result : List Token) : Prop :=
  ∃ bound ≤ lexer.toToken.cursor.rest.length + 1, lexer.tokens? bound = some result

/-- A gap ends in the text in which it begins. -/
theorem length_skipGap_le (inFlow keyAllowed inComment : Bool) (index line column : Nat)
    (text : List Char) :
    (skipGap inFlow keyAllowed inComment index line column text).1.rest.length ≤ text.length := by
  fun_induction skipGap inFlow keyAllowed inComment index line column text <;>
    simp only [List.length_cons, List.length_nil, Nat.le_refl] <;> omega

/-- The next token stands in the text that is left. -/
theorem length_toToken_le (lexer : Lexer) :
    lexer.toToken.cursor.rest.length ≤ lexer.cursor.rest.length :=
  length_skipGap_le ..

/-- To forget the places that the cursor has left behind does not move it. -/
theorem settled?_cursor {lexer settled : Lexer} (kept : lexer.settled? = some settled) :
    settled.cursor = lexer.cursor := by
  simp only [settled?, Option.bind_eq_bind, Option.bind_eq_some_iff, Option.pure_def,
    Option.some.injEq] at kept
  obtain ⟨_, -, _, -, rfl⟩ := kept
  rfl

/-- With more steps than needed the same tokens are read. -/
theorem tokens?_mono {bound most : Nat} {lexer : Lexer} {result : List Token}
    (read : lexer.tokens? bound = some result) (bounded : bound ≤ most) :
    lexer.tokens? most = some result := by
  induction bound generalizing lexer most with
  | zero => cases read
  | succ bound inductionHypothesis =>
    cases most with
    | zero => cases bounded
    | succ most =>
      rw [tokens?] at read ⊢
      cases settled : lexer.toToken.settled? with
      | none => simp [settled] at read
      | some found =>
        rw [settled] at read
        cases rest : found.cursor.rest with
        | nil => simpa only [rest] using read
        | cons c later =>
          simp only [rest, Option.bind_eq_some_iff] at read ⊢
          obtain ⟨next, step, read⟩ := read
          exact ⟨next, step, inductionHypothesis read (Nat.le_of_succ_le_succ bounded)⟩

/-- What is yielded is read in as many steps as there are characters left. -/
theorem Yields.tokens?_eq {lexer : Lexer} {result : List Token} (yields : lexer.Yields result) :
    lexer.tokens? (lexer.cursor.rest.length + 1) = some result := by
  obtain ⟨bound, bounded, read⟩ := yields
  exact tokens?_mono read (Nat.le_trans bounded (Nat.succ_le_succ lexer.length_toToken_le))

/-- Lexers that have the same next token before them yield the same tokens. -/
theorem Yields.of_toToken {lexer other : Lexer} {result : List Token}
    (same : lexer.toToken = other.toToken) (yields : other.Yields result) :
    lexer.Yields result := by
  obtain ⟨bound, bounded, read⟩ := yields
  refine ⟨bound, by rwa [same], ?_⟩
  cases bound with
  | zero => cases read
  | succ bound => rwa [tokens?, same]

/-- What is yielded behind a token is yielded before it. -/
theorem Yields.of_next {lexer settled after : Lexer} {result : List Token} {c : Char}
    {rest : List Char} (gap : lexer.toToken.settled? = some settled)
    (here : settled.cursor.rest = c :: rest)
    (next : (settled.endBlocks settled.cursor.column).next? c = some after)
    (shorter : after.cursor.rest.length < settled.cursor.rest.length)
    (yields : after.Yields result) : lexer.Yields result := by
  obtain ⟨bound, bounded, read⟩ := yields
  have moved := settled?_cursor gap
  have left := after.length_toToken_le
  refine ⟨bound + 1, ?_, ?_⟩
  · rw [← moved]
    omega
  · simp [tokens?, gap, here, next, read]

/-- A lexer between two tokens in block style that remembers no place of a key. -/
def between (cursor : Cursor) (keyAllowed : Bool) (tokens : List Token) (indents : List Nat) :
    Lexer :=
  ⟨cursor, tokens, indents, none, [], keyAllowed⟩

/-- A lexer at the beginning of a line, where a key may begin. -/
def atLine (text : List Char) (index line : Nat) (tokens : List Token) (indents : List Nat) :
    Lexer :=
  between ⟨text, index, line, 0⟩ true tokens indents

section Gaps

variable {keyAllowed : Bool} {index line column : Nat} {rest : List Char}

/-- A space before a token is passed. -/
theorem skipGap_space (rest : List Char) :
    skipGap false keyAllowed false index line column (' ' :: rest) =
      skipGap false keyAllowed false (index + 1) line (column + 1) rest := by
  rw [skipGap.eq_3 _ _ _ _ _ _ _ _ (by simp)]
  simp [isBreak, byteOrderMark]

/-- Spaces before a token are passed. -/
theorem skipGap_spaces (count : Nat) (rest : List Char) :
    skipGap false keyAllowed false index line column (List.replicate count ' ' ++ rest) =
      skipGap false keyAllowed false (index + count) line (column + count) rest := by
  induction count generalizing index column with
  | zero => rfl
  | succ count inductionHypothesis =>
    rw [List.replicate_succ, List.cons_append, skipGap_space, inductionHypothesis]
    simp only [Nat.add_comm, Nat.add_left_comm]

/-- Behind a line break a key may begin. -/
theorem skipGap_break (rest : List Char) :
    skipGap false keyAllowed false index line column ('\n' :: rest) =
      skipGap false true false (index + 1) (line + 1) 0 rest := by
  rw [skipGap.eq_3 _ _ _ _ _ _ _ _ (by simp)]
  simp [isBreak]

/-- A gap ends at a character of a line that is no space and begins no comment. -/
theorem skipGap_stop {c : Char} (inline : isInline c = true) (noSpace : c ≠ ' ')
    (noComment : c ≠ '#') :
    skipGap false keyAllowed false index line column (c :: rest) =
      (⟨c :: rest, index, line, column⟩, keyAllowed) := by
  have noBreak := isBreak_of_isInline inline
  have noMark : c ≠ byteOrderMark := by
    rintro rfl
    cases inline
  rw [skipGap.eq_3 _ _ _ _ _ _ _ _ (not_return_of_isInline inline rest)]
  simp [noBreak, noMark, noSpace, noComment, ne_tab_of_isInline inline]

/-- The spaces at the beginning of a line belong to the gap before the next token. -/
theorem toToken_skipWhile {below : Nat} {tail : List Char} (follows : Follows below tail)
    (tokens : List Token) (indents : List Nat) :
    (between ((Cursor.mk tail index line 0).skipWhile (· == ' ')) true tokens indents).toToken =
      (atLine tail index line tokens indents).toToken := by
  cases follows with
  | nothing => rfl
  | @field width c rest indented begins =>
    have noSpace := ne_space_of_isFieldCharacter begins
    have cursor : (Cursor.mk (List.replicate width ' ' ++ c :: rest) index line 0).skipWhile
        (· == ' ') = ⟨c :: rest, index + width, line, 0 + width⟩ := by
      simp [Cursor.skipWhile, Cursor.skip, noSpace]
    rw [cursor]
    simp only [toToken, atLine, between, inFlow, List.isEmpty_nil, Bool.not_true, skipGap_spaces]

end Gaps

section Steps

variable {cursor : Cursor} {keyAllowed : Bool} {tokens result : List Token} {indents : List Nat}
  {index line column : Nat}

/-- No record ends at a column that none of the open ones exceeds. -/
theorem endBlocks_eq_self {lexer : Lexer}
    (inside : ∀ indent ∈ lexer.indents.head?, indent ≤ column) :
    lexer.endBlocks column = lexer := by
  have none : lexer.indents.takeWhile (column < ·) = [] := by
    cases opened : lexer.indents with
    | nil => rfl
    | cons indent outer =>
      have bounded : indent ≤ column := inside indent (by simp [opened])
      simp [Nat.not_lt.2 bounded]
  simp [endBlocks, none]

/-- A plain scalar is read where nothing else begins. -/
theorem next?_plain {lexer : Lexer} {c : Char} {rest : List Char}
    (here : lexer.cursor.rest = c :: rest) (inBlock : lexer.outer = [])
    (noMark : lexer.cursor.atDocumentMark = false) (noTab : c ≠ '\t')
    (begins : BeginsPlain c rest) : lexer.next? c = lexer.plainScalar? := by
  obtain ordinary | ⟨sign, goesOn⟩ := begins
  · have letters := ordinary
    simp only [isIndicator, isFlowIndicator, Bool.or_eq_false_iff, beq_eq_false_iff_ne] at letters
    simp [next?, here, noMark, noTab, ordinary, letters, inFlow, inBlock]
  · obtain rfl | rfl | rfl := sign <;>
      simp [next?, here, noMark, goesOn, inFlow, inBlock]

/-- What is yielded behind a token is yielded before it, where no place of a key is
remembered and no record ends. -/
theorem Yields.of_token {found : Cursor} {foundAllowed : Bool} {after : Lexer} {c : Char}
    {rest : List Char}
    (gap : skipGap false keyAllowed false cursor.index cursor.line cursor.column cursor.rest =
      (found, foundAllowed))
    (here : found.rest = c :: rest) (inside : ∀ indent ∈ indents.head?, indent ≤ found.column)
    (next : (between found foundAllowed tokens indents).next? c = some after)
    (shorter : after.cursor.rest.length < found.rest.length) (yields : after.Yields result) :
    (between cursor keyAllowed tokens indents).Yields result := by
  have settled : (between cursor keyAllowed tokens indents).toToken.settled? =
      some (between found foundAllowed tokens indents) := by
    have moved : (between cursor keyAllowed tokens indents).toToken =
        between found foundAllowed tokens indents := by
      simp [toToken, between, inFlow, gap]
    rw [moved]
    rfl
  have stays : (between found foundAllowed tokens indents).endBlocks found.column =
      between found foundAllowed tokens indents := endBlocks_eq_self inside
  exact .of_next settled here ((congrArg (·.next? c) stays).trans next) shorter yields

/-- Before a field of an outer record, and at the end of the text, an open record ends. -/
theorem Yields.of_blockEnd {below indent : Nat} {tail : List Char} {outer : List Nat}
    (follows : Follows below tail) (outside : below ≤ indent)
    (yields : (atLine tail index line (.blockEnd :: tokens) outer).Yields result) :
    (atLine tail index line tokens (indent :: outer)).Yields result := by
  obtain ⟨bound, bounded, read⟩ := yields
  refine ⟨bound, bounded, ?_⟩
  cases bound with
  | zero => cases read
  | succ bound =>
    rw [← read]
    -- The next step ends the record and goes on as if it had been ended before.
    cases follows with
    | nothing =>
      simp [tokens?, toToken, atLine, between, skipGap, settled?, PendingKey.settled?,
        endAllBlocks, inFlow, withoutKey?, List.replicate_succ']
    | @field column c rest indented begins =>
      have gap : skipGap false true false index line 0 (List.replicate column ' ' ++ c :: rest) =
          (⟨c :: rest, index + column, line, 0 + column⟩, true) := by
        rw [skipGap_spaces, skipGap_stop (isInline_of_isFieldCharacter begins)
          (ne_space_of_isFieldCharacter begins)]
        rintro rfl
        cases begins
      have ends : column < indent := Nat.lt_of_lt_of_le indented outside
      simp [tokens?, toToken, atLine, between, gap, settled?, PendingKey.settled?, endBlocks,
        inFlow, ends, List.replicate_succ']

end Steps

section Fields

variable {tokens result start : List Token} {indents outer : List Nat} {keyAllowed : Bool}
  {index line column place : Nat} {name more tail : List Char} {cursor : Cursor}

/-- The place of a key that a lexer remembers at a cursor. -/
def keyAt (cursor : Cursor) (tokens : List Token) (indents : List Nat) : PendingKey where
  position := tokens.length
  index := cursor.index
  line := cursor.line
  column := cursor.column
  isRequired := indents.head? == some cursor.column

/-- A lexer behind a token that may be a key if a key was allowed before it. -/
def behind (before found : Cursor) (keyAllowed broken : Bool) (token : Token)
    (tokens : List Token) (indents : List Nat) : Lexer :=
  ⟨found, token :: tokens, indents, if keyAllowed then some (keyAt before tokens indents) else none,
    [], broken⟩

/-- Between two tokens the place of a key is remembered if a key is allowed. -/
theorem withKey?_between :
    (between cursor keyAllowed tokens indents).withKey? =
      some { between cursor keyAllowed tokens indents with
        pending := if keyAllowed then some (keyAt cursor tokens indents) else none } := by
  cases keyAllowed <;> rfl

/-- A plain scalar that can be read is added. -/
theorem plainScalar?_between {scanned : Scanned}
    (read : plainFrom? false (between cursor keyAllowed tokens indents).innerColumn .none false
      cursor.index cursor.line cursor.column cursor.rest = some scanned) :
    (between cursor keyAllowed tokens indents).plainScalar? =
      some (behind cursor scanned.cursor keyAllowed scanned.broken (.scalar scanned.text .plain)
        tokens indents) := by
  rw [plainScalar?, withKey?_between]
  have found : plain? false (between cursor keyAllowed tokens indents).innerColumn cursor =
      some scanned := read
  simp only [innerColumn, between] at found
  simp [innerColumn, between, inFlow, found, addScalar, add, behind]

/-- How a field at a column stands to the open records: `Opens column indents outer start`
says that it goes on with the record at its column, or begins one inside all open ones. Of
the open records `outer` are those around it, and `start` announces it. -/
inductive Opens (column : Nat) : List Nat → List Nat → List Token → Prop where
  | goesOn {outer : List Nat} : Opens column (column :: outer) outer []
  | begins {indents : List Nat} (inside : ∀ indent ∈ indents.head?, indent < column) :
      Opens column indents indents [.blockMappingStart]

/-- A field stands in none of the open records that its column precedes. -/
theorem Opens.inside {column : Nat} {indents outer : List Nat} {start : List Token}
    (opens : Opens column indents outer start) : ∀ indent ∈ indents.head?, indent ≤ column := by
  cases opens with
  | goesOn => simp
  | begins inside => exact fun indent opened => Nat.le_of_lt (inside indent opened)

/-- A colon behind a scalar makes it a key, and the first key of a record announces the
record. -/
theorem value?_behind {token : Token} (opens : Opens cursor.column indents outer start) :
    (behind cursor ⟨':' :: more, index, line, place⟩ true false token tokens indents).value? =
      some (between ⟨more, index + 1, line, place + 1⟩ false
        (.value :: token :: .key :: (start ++ tokens)) (cursor.column :: outer)) := by
  cases opens with
  | goesOn =>
    simp [value?, behind, insert, keyAt, beginBlock, innerColumn, inFlow, between, add,
      Cursor.skip]
  | begins inside =>
    have isInside : (behind cursor ⟨':' :: more, index, line, place⟩ true false token tokens
        indents).innerColumn ≤ cursor.column := by
      cases indents with
      | nil => exact Nat.zero_le _
      | cons indent outer => exact inside indent rfl
    simp only [behind, innerColumn] at isInside
    -- The start of the record goes before the key that was put before the scalar.
    have two : tokens.length + 1 + 1 - tokens.length = 2 := by omega
    simp [value?, behind, insert, keyAt, beginBlock, innerColumn, inFlow, between, add,
      Cursor.skip, two, Nat.not_lt.2 isInside]

/-- A colon is read behind a scalar that begins a key, in the same line and not too far
behind its beginning. -/
theorem Yields.of_colon {token : Token} (opens : Opens cursor.column indents outer start)
    (ends : endsWord more = true) (near : index ≤ cursor.index + 1024)
    (later : cursor.column ≤ place)
    (yields : (between ⟨more, index + 1, cursor.line, place + 1⟩ false
      (.value :: token :: .key :: (start ++ tokens)) (cursor.column :: outer)).Yields result) :
    (behind cursor ⟨':' :: more, index, cursor.line, place⟩ true false token tokens
      indents).Yields result := by
  have gap : skipGap false false false index cursor.line place (':' :: more) =
      (⟨':' :: more, index, cursor.line, place⟩, false) :=
    skipGap_stop rfl (by simp) (by simp)
  let keyed :=
    behind cursor ⟨':' :: more, index, cursor.line, place⟩ true false token tokens indents
  have settled : keyed.toToken.settled? = some keyed := by
    simp [keyed, toToken, behind, inFlow, gap, settled?, PendingKey.settled?, PendingKey.isFresh,
      keyAt, near]
  have stays : keyed.endBlocks place = keyed :=
    endBlocks_eq_self fun indent opened => Nat.le_trans (opens.inside indent opened) later
  refine .of_next settled rfl ((congrArg (·.next? ':') stays).trans ?_) ?_ yields
  · rw [← value?_behind opens]
    simp [keyed, next?, behind, Cursor.atDocumentMark, isDocumentMark, inFlow, ends]
  · simp [keyed, behind, between]

/-- A name and its colon are read as a key; the first name of a record announces the
record. -/
theorem Yields.of_name (letters : ∀ c ∈ name, isFieldCharacter c = true) (nonempty : name ≠ [])
    (short : name.length ≤ 1024) (opens : Opens column indents outer start)
    (ends : endsWord more = true)
    (yields : (between ⟨more, index + column + name.length + 1, line, column + name.length + 1⟩
      false (.value :: .scalar name .plain :: .key :: (start ++ tokens)) (column :: outer)).Yields
        result) :
    (atLine (List.replicate column ' ' ++ name ++ ':' :: more) index line tokens indents).Yields
      result := by
  have plain := IsPlain.of_letters letters nonempty
  obtain ⟨c, rest, rfl⟩ := List.exists_cons_of_ne_nil nonempty
  have letter := letters c List.mem_cons_self
  have inline := isInline_of_isFieldCharacter letter
  have noComment : c ≠ '#' := by
    rintro rfl
    cases letter
  have noMark : isDocumentMark (c :: (rest ++ ':' :: more)) = false :=
    isDocumentMark_of_isFieldCharacter letter _
  have gap : skipGap false true false index line 0
      (List.replicate column ' ' ++ (c :: rest) ++ ':' :: more) =
        (⟨c :: rest ++ ':' :: more, index + column, line, column⟩, true) := by
    rw [List.append_assoc, skipGap_spaces, Nat.zero_add]
    exact skipGap_stop inline (ne_space_of_isFieldCharacter letter) noComment
  have read : plainFrom? false
      (between ⟨c :: rest ++ ':' :: more, index + column, line, column⟩ true tokens
        indents).innerColumn .none false (index + column) line column
        (c :: rest ++ ':' :: more) =
          some ⟨c :: rest, ⟨':' :: more, index + column + (c :: rest).length, line,
            column + (c :: rest).length⟩, false⟩ :=
    plainFrom?_key plain.inline nonempty plain.dense plain.unmarked noMark ends
  refine .of_token gap rfl opens.inside ((next?_plain rfl rfl ?_
    (ne_tab_of_isInline inline) (.inl (isFieldCharacter_spec letter).1)).trans
      (plainScalar?_between read)) ?_ ?_
  · simp [between, Cursor.atDocumentMark, noMark]
  · simp only [behind, List.length_append, List.length_cons]
    omega
  · exact .of_colon opens ends (Nat.add_le_add_left short _) (Nat.le_add_right _ _) yields

end Fields

section Values

variable {tokens result : List Token} {outer : List Nat} {index line column place below : Nat}
  {text tail : List Char}

/-- The line break behind a value is passed. -/
theorem Yields.of_break {indents : List Nat}
    (yields : (atLine tail (index + 1) (line + 1) tokens indents).Yields result) :
    (between ⟨'\n' :: tail, index, line, place⟩ false tokens indents).Yields result := by
  refine .of_toToken ?_ yields
  simp only [toToken, atLine, between, inFlow, List.isEmpty_nil, Bool.not_true, skipGap_break]

/-- A plain value is read up to the end of its line. -/
theorem Yields.of_plain (plain : IsPlain text) (follows : Follows below tail)
    (inner : below ≤ column + 1) (inside : column ≤ place)
    (yields : ∀ index line,
      (atLine tail index line (.scalar text .plain :: tokens) (column :: outer)).Yields result) :
    (between ⟨' ' :: (text ++ '\n' :: tail), index, line, place⟩ false tokens
      (column :: outer)).Yields result := by
  obtain ⟨c, rest, rfl, noSpace, begins⟩ := plain.begins
  have read : plainFrom? false (column + 1) .none false (index + 1) line (place + 1)
      (c :: rest ++ '\n' :: tail) = some _ :=
    plainFrom?_line plain.inline (by simp) plain.dense plain.unmarked (Nat.add_one_ne_zero place)
      follows inner
  have inline := plain.inline c List.mem_cons_self
  have gap : skipGap false false false index line place (' ' :: (c :: rest ++ '\n' :: tail)) =
      (⟨c :: rest ++ '\n' :: tail, index + 1, line, place + 1⟩, false) := by
    rw [skipGap_space]
    exact skipGap_stop inline noSpace begins.ne_comment
  refine .of_token gap rfl ?_ ((next?_plain rfl rfl ?_ (ne_tab_of_isInline inline)
    (begins.append _)).trans (plainScalar?_between read)) ?_ ?_
  · rintro indent opened
    cases opened
    exact Nat.le_succ_of_le inside
  · simp [between, Cursor.atDocumentMark]
  · simp only [behind, Cursor.skipWhile, Cursor.skip, List.length_drop, List.length_append,
      List.length_cons]
    omega
  -- The scalar takes the spaces of the next line along.
  · exact .of_toToken (toToken_skipWhile follows _ _) (yields _ _)

/-- A value between quotes is read up to the line break behind it. -/
theorem Yields.of_quoted {quote : Char} {rest : List Char} {behindQuote last : Nat}
    (inline : isInline quote = true) (noSpace : quote ≠ ' ') (noComment : quote ≠ '#')
    (next : (between ⟨quote :: rest, index + 1, line, place + 1⟩ false tokens
      (column :: outer)).next? quote =
        some (between ⟨'\n' :: tail, behindQuote, line, last⟩ false
          (.scalar text .other :: tokens) (column :: outer)))
    (longer : tail.length < rest.length) (inside : column ≤ place)
    (yields : ∀ index line,
      (atLine tail index line (.scalar text .other :: tokens) (column :: outer)).Yields result) :
    (between ⟨' ' :: quote :: rest, index, line, place⟩ false tokens (column :: outer)).Yields
      result := by
  have gap : skipGap false false false index line place (' ' :: quote :: rest) =
      (⟨quote :: rest, index + 1, line, place + 1⟩, false) := by
    rw [skipGap_space]
    exact skipGap_stop inline noSpace noComment
  refine .of_token gap rfl ?_ next (Nat.succ_lt_succ longer) (.of_break (yields _ _))
  rintro indent opened
  cases opened
  exact Nat.le_succ_of_le inside

/-- A value between single quotes is read as its text. -/
theorem Yields.of_singleQuoted (inline : ∀ c ∈ text, isInline c = true) (inside : column ≤ place)
    (yields : ∀ index line,
      (atLine tail index line (.scalar text .other :: tokens) (column :: outer)).Yields result)
    (indent : Nat) :
    (between ⟨' ' :: (singleQuoted indent text ++ '\n' :: tail), index, line, place⟩ false tokens
      (column :: outer)).Yields result := by
  have read : ∃ behind last, singleQuotedFrom? (.spaces []) (index + 2) line (place + 2)
      (singleQuoted.inside indent false text ++ '\n' :: tail) = some _ :=
    singleQuotedFrom?_inside inline indent (Nat.add_one_ne_zero (place + 1))
  obtain ⟨behind, last, read⟩ := read
  have next : (between ⟨'\'' :: (singleQuoted.inside indent false text ++ '\n' :: tail), index + 1,
      line, place + 1⟩ false tokens (column :: outer)).next? '\'' =
        some (between ⟨'\n' :: tail, behind, line, last⟩ false (.scalar text .other :: tokens)
          (column :: outer)) := by
    simp [next?, between, Cursor.atDocumentMark, singleQuoted?, withKey?, Cursor.skip, Gap.none,
      read, addScalar, add]
  exact .of_quoted rfl (by simp) (by simp) next (by simp; omega) inside yields

/-- A value between double quotes is read as its text. -/
theorem Yields.of_doubleQuoted (inline : ∀ c ∈ text, isInline c = true) (inside : column ≤ place)
    (yields : ∀ index line,
      (atLine tail index line (.scalar text .other :: tokens) (column :: outer)).Yields result) :
    (between ⟨' ' :: (doubleQuoted text ++ '\n' :: tail), index, line, place⟩ false tokens
      (column :: outer)).Yields result := by
  have read : ∃ behind last, doubleQuotedFrom? (.spaces []) 0 (index + 2) line (place + 2)
      (text.flatMap doubleQuotedCharacter ++ '"' :: '\n' :: tail) = some _ :=
    doubleQuotedFrom?_characters inline (Nat.add_one_ne_zero (place + 1))
  obtain ⟨behind, last, read⟩ := read
  have next : (between ⟨'"' :: (text.flatMap doubleQuotedCharacter ++ '"' :: '\n' :: tail),
      index + 1, line, place + 1⟩ false tokens (column :: outer)).next? '"' =
        some (between ⟨'\n' :: tail, behind, line, last⟩ false (.scalar text .other :: tokens)
          (column :: outer)) := by
    simp [next?, between, Cursor.atDocumentMark, doubleQuoted?, withKey?, Cursor.skip, Gap.none,
      read, addScalar, add]
  have written : doubleQuoted text ++ '\n' :: tail =
      '"' :: (text.flatMap doubleQuotedCharacter ++ '"' :: '\n' :: tail) := by
    simp [doubleQuoted]
  rw [written]
  exact .of_quoted rfl (by simp) (by simp) next (by simp; omega) inside yields

/-- A text of one line is read as a scalar of its text, however it is written. -/
theorem Yields.of_text (inline : ∀ c ∈ text, isInline c = true) (follows : Follows below tail)
    (inner : below ≤ column + 1) (inside : column ≤ place)
    (yields : ∀ index line, (atLine tail index line
      (.scalar text (Style.ofText text).spelling :: tokens) (column :: outer)).Yields result)
    (indent : Nat) :
    (between ⟨' ' :: (scalarText indent text ++ tail), index, line, place⟩ false tokens
      (column :: outer)).Yields result := by
  obtain ⟨style, plain, -⟩ | ⟨style, -⟩ | style := Style.ofText_cases inline
  · rw [style] at yields
    simpa [scalarText, style] using Yields.of_plain plain follows inner inside yields
  · rw [style] at yields
    simpa [scalarText, style] using Yields.of_singleQuoted inline inside yields indent
  · rw [style] at yields
    simpa [scalarText, style] using Yields.of_doubleQuoted inline inside yields

end Values

end Lexer

end PredictionMarket.Yaml
