import PredictionMarket.Json.Parser
import PredictionMarket.Proofs.Json.Numerals
import PredictionMarket.Proofs.Json.Quoted

/-!
# Texts that spell a value

A text spells a value when it is made of the texts of its parts, with any space between them.
The parser reads it as the value, whatever follows it, as long as the containers in it fit the
room that is left. The printers of this library write such texts.
-/

namespace PredictionMarket.Json

/-- Only space stands in a gap. -/
def Gap (text : List Char) : Prop := ∀ c ∈ text, isSpace c = true

mutual

/-- A text spells a value with so many containers inside one another. -/
inductive Spells : Nat → List Char → Json → Prop
  | null {room : Nat} : Spells room ['n', 'u', 'l', 'l'] .null
  | bool {room : Nat} (value : Bool) : Spells room (literalText value) (.bool value)
  | number {room : Nat} {value : Number} (readsBack : number? value.text = some (value, [])) :
      Spells room value.text (.number value)
  | string {room : Nat} (value : String) : Spells room (quoted value) (.string value)
  | emptyArray {room : Nat} : Spells (room + 1) ['[', ']'] (.array [])
  | array {room : Nat} {gap text : List Char} {elements : List Json} (space : Gap gap)
      (spelled : SpellsElements room text elements) :
      Spells (room + 1) ('[' :: (gap ++ text)) (.array elements)
  | emptyObject {room : Nat} : Spells (room + 1) ['\x7b', '\x7d'] (.object [])
  | object {room : Nat} {gap text : List Char} {members : List (String × Json)} (space : Gap gap)
      (spelled : SpellsMembers room text members) :
      Spells (room + 1) ('\x7b' :: (gap ++ text)) (ofMembers members)

/-- A text spells the elements of an array and closes it. -/
inductive SpellsElements : Nat → List Char → List Json → Prop
  | last {room : Nat} {text gap : List Char} {element : Json} (spelled : Spells room text element)
      (space : Gap gap) : SpellsElements room (text ++ (gap ++ [']'])) [element]
  | cons {room : Nat} {text gap others : List Char} {element : Json} {elements : List Json}
      (spelled : Spells room text element) (space : Gap gap)
      (behind : SpellsElements room others elements) :
      SpellsElements room (text ++ ',' :: (gap ++ others)) (element :: elements)

/-- A text spells the members of an object and closes it. -/
inductive SpellsMembers : Nat → List Char → List (String × Json) → Prop
  | last {room : Nat} {name : String} {before text gap : List Char} {value : Json}
      (first : Gap before) (spelled : Spells room text value) (space : Gap gap) :
      SpellsMembers room (quoted name ++ ':' :: (before ++ (text ++ (gap ++ ['\x7d']))))
        [(name, value)]
  | cons {room : Nat} {name : String} {before text gap others : List Char} {value : Json}
      {members : List (String × Json)} (first : Gap before) (spelled : Spells room text value)
      (space : Gap gap) (behind : SpellsMembers room others members) :
      SpellsMembers room (quoted name ++ ':' :: (before ++ (text ++ ',' :: (gap ++ others))))
        ((name, value) :: members)

end

section Reading

variable {room : Nat} {gap text rest : List Char}

/-- Nothing is a gap. -/
theorem gap_nil : Gap [] := fun _ member => by cases member

/-- Space in front of a text is skipped. -/
theorem skipSpace_gap (space : Gap gap) (text : List Char) :
    skipSpace (gap ++ text) = skipSpace text := List.dropWhile_append_of_pos space

/-- What is not space is not skipped. -/
theorem skipSpace_cons {c : Char} (visible : isSpace c = false) (rest : List Char) :
    skipSpace (c :: rest) = c :: rest := by
  rw [skipSpace, List.dropWhile_cons_of_neg (by rw [visible]; exact Bool.false_ne_true)]

/-- A character that begins the text of a value: neither space nor a closing bracket. -/
def Opens (c : Char) : Prop := isSpace c = false ∧ c ≠ ']'

/-- A digit is not space, and no value but a numeral begins with one. -/
theorem ne_of_isDigit {c other : Char} (digit : c.isDigit = true)
    (notDigit : other.isDigit = false) : c ≠ other := by
  rintro rfl
  exact absurd digit (by rw [notDigit]; exact Bool.false_ne_true)

/-- A numeral opens a value. -/
theorem opens_of_numeral {c : Char} (numeral : c = '-' ∨ c.isDigit = true) : Opens c := by
  rcases numeral with rfl | digit
  · exact ⟨rfl, by decide⟩
  · refine ⟨?_, ne_of_isDigit digit rfl⟩
    have notSpace : c ≠ ' ' ∧ c ≠ '\t' ∧ c ≠ '\n' ∧ c ≠ '\r' :=
      ⟨ne_of_isDigit digit rfl, ne_of_isDigit digit rfl, ne_of_isDigit digit rfl,
        ne_of_isDigit digit rfl⟩
    simp [isSpace, notSpace]

/-- The text of a value begins with a character that opens one. -/
theorem Spells.exists_cons {value : Json} (spelled : Spells room text value) :
    ∃ c others, text = c :: others ∧ Opens c := by
  cases spelled with
  | null => exact ⟨_, _, rfl, rfl, by decide⟩
  | bool value => cases value <;> exact ⟨_, _, rfl, rfl, by decide⟩
  | number readsBack =>
    obtain ⟨c, others, shape, numeral⟩ := exists_cons_of_number? readsBack
    exact ⟨c, others, shape, opens_of_numeral numeral⟩
  | string value => exact ⟨_, _, rfl, rfl, by decide⟩
  | emptyArray | array | emptyObject | object => exact ⟨_, _, rfl, rfl, by decide⟩

/-- So does the text of elements. -/
theorem SpellsElements.exists_cons {elements : List Json}
    (spelled : SpellsElements room text elements) : ∃ c others, text = c :: others ∧ Opens c := by
  cases spelled with
  | last spelled space | cons spelled space behind =>
    obtain ⟨c, others, rfl, opens⟩ := spelled.exists_cons
    exact ⟨c, _, rfl, opens⟩

/-- The text of members begins with a quote. -/
theorem SpellsMembers.exists_cons {members : List (String × Json)}
    (spelled : SpellsMembers room text members) : ∃ others, text = '"' :: others := by
  cases spelled with
  | last first spelled space | cons first spelled space behind => exact ⟨_, rfl⟩

/-- A text that begins like a numeral is read as one. -/
theorem value?_numeral {bound : Nat} {c : Char} (numeral : c = '-' ∨ c.isDigit = true)
    (shape : skipSpace text = c :: rest) :
    value? (bound + 1) room text =
      (number? (c :: rest)).map fun read => (.number read.1, read.2) := by
  have other : ∀ d : Char, d ≠ '-' → d.isDigit = false → c ≠ d := by
    rintro d notMinus notDigit rfl
    rcases numeral with minus | digit
    · exact notMinus minus
    · exact ne_of_isDigit digit notDigit rfl
  unfold value?
  rw [shape]
  split
  all_goals
    first
      | rfl
      | next same => exact absurd (List.cons.inj same).1 (other _ (by decide) rfl)

/-- A text that begins with a quote is read as a string. -/
theorem value?_quote {bound : Nat} (shape : skipSpace text = '"' :: rest) :
    value? (bound + 1) room text =
      (unquoted? rest).map fun read => (.string (String.ofList read.1), read.2) := by
  rw [value?, shape]
  rfl

/-- A text that begins with a bracket that is not closed at once is read as an array. -/
theorem value?_bracket {bound : Nat} {c : Char} {others : List Char}
    (shape : skipSpace text = '[' :: rest) (first : skipSpace rest = c :: others)
    (notClosing : c ≠ ']') :
    value? (bound + 1) (room + 1) text =
      (elements? bound room (c :: others)).map fun read => (.array read.1, read.2) := by
  rw [value?, shape]
  simp only [first]
  split
  · next same => exact absurd (List.cons.inj same).1 notClosing
  · rfl

/-- A text that begins with a brace in front of a quote is read as an object. -/
theorem value?_brace {bound : Nat} {others : List Char}
    (shape : skipSpace text = '\x7b' :: rest) (first : skipSpace rest = '"' :: others) :
    value? (bound + 1) (room + 1) text =
      (members? bound room ('"' :: others)).map fun read => (ofMembers read.1, read.2) := by
  rw [value?, shape]
  simp only [first]
  rfl

/-- A member in front of a closing brace is the last one. -/
theorem members?_last {bound : Nat} {name : String} {value : Json} {behind : List Char}
    (space : Gap gap) (read : value? bound room text = some (value, behind))
    (closes : skipSpace behind = '\x7d' :: rest) :
    members? (bound + 1) room (gap ++ (quoted name ++ ':' :: text)) =
      some ([(name, value)], rest) := by
  rw [members?, skipSpace_gap space, quoted_append, skipSpace_cons rfl]
  have colon : skipSpace (':' :: text) = ':' :: text := skipSpace_cons rfl text
  simp only [unquoted?_quoted, colon, read, closes, String.ofList_toList]

/-- Behind a member in front of a comma there are more. -/
theorem members?_more {bound : Nat} {name : String} {value : Json} {behind : List Char}
    (space : Gap gap) (read : value? bound room text = some (value, behind))
    (continues : skipSpace behind = ',' :: rest) :
    members? (bound + 1) room (gap ++ (quoted name ++ ':' :: text)) =
      (members? bound room rest).map fun read => ((name, value) :: read.1, read.2) := by
  rw [members?, skipSpace_gap space, quoted_append, skipSpace_cons rfl]
  have colon : skipSpace (':' :: text) = ':' :: text := skipSpace_cons rfl text
  simp only [unquoted?_quoted, colon, read, continues, String.ofList_toList]

/-- A text behind which something ends a numeral, whatever comes after. -/
theorem endsNumeral_cons {c : Char} (notDigit : c.isDigit = false)
    (other : c ≠ '.' ∧ c ≠ 'e' ∧ c ≠ 'E') : EndsNumeral (c :: rest) := by
  rintro d first
  cases first
  exact ⟨notDigit, other⟩

/-- Space, or a character that divides or closes, ends a numeral. -/
theorem endsNumeral_gap (space : Gap gap) (ends : EndsNumeral rest) : EndsNumeral (gap ++ rest) := by
  cases gap with
  | nil => exact ends
  | cons c others =>
    have isSpace := space c List.mem_cons_self
    simp only [Json.isSpace, Bool.or_eq_true, beq_iff_eq] at isSpace
    rcases isSpace with ((rfl | rfl) | rfl) | rfl <;>
      exact endsNumeral_cons rfl (by decide)

mutual

/-- A text that spells a value is read as the value, and what follows it is left. -/
theorem Spells.value? {room : Nat} {text : List Char} {value : Json} :
    Spells room text value → ∀ {bound : Nat} {gap rest : List Char}, Gap gap → EndsNumeral rest →
      2 * text.length + 1 ≤ bound → value? bound room (gap ++ (text ++ rest)) = some (value, rest)
  | .null, bound + 1, gap, rest, space, _, _ => by
    rw [Json.value?, skipSpace_gap space]
    rfl
  | .bool value, bound + 1, gap, rest, space, _, _ => by
    rw [Json.value?, skipSpace_gap space]
    cases value <;> rfl
  | .number readsBack, bound + 1, gap, rest, space, ends, _ => by
    obtain ⟨c, others, shape, numeral⟩ := exists_cons_of_number? readsBack
    have start : skipSpace (gap ++ (c :: others ++ rest)) = c :: (others ++ rest) := by
      rw [skipSpace_gap space, List.cons_append, skipSpace_cons (opens_of_numeral numeral).1]
    have more := number?_more ends readsBack
    rw [shape] at more ⊢
    rw [value?_numeral numeral start, ← List.cons_append, more]
    rfl
  | .string value, bound + 1, gap, rest, space, _, _ => by
    have start := skipSpace_gap space (quoted value ++ rest)
    rw [quoted_append, skipSpace_cons rfl] at start
    rw [quoted_append, value?_quote start, unquoted?_quoted, Option.map_some, String.ofList_toList]
  | .emptyArray, bound + 1, gap, rest, space, _, _ => by
    rw [Json.value?, skipSpace_gap space]
    rfl
  | @Spells.array _ inside text elements inner spelled, bound + 1, gap, rest, space, _, enough => by
    obtain ⟨c, others, shape, visible, notClosing⟩ := spelled.exists_cons
    rw [List.length_cons, List.length_append] at enough
    have read : Json.elements? bound _ ([] ++ (text ++ rest)) = some (elements, rest) :=
      spelled.elements? gap_nil (by omega)
    have first := skipSpace_gap inner (text ++ rest)
    rw [shape, List.cons_append, skipSpace_cons visible] at first
    rw [List.cons_append, List.append_assoc, shape, List.cons_append,
      value?_bracket ((skipSpace_gap space _).trans (skipSpace_cons rfl _)) first notClosing,
      ← List.cons_append, ← shape, ← List.nil_append (text ++ rest), read]
    rfl
  | .emptyObject, bound + 1, gap, rest, space, _, _ => by
    rw [Json.value?, skipSpace_gap space]
    rfl
  | @Spells.object _ inside text members inner spelled, bound + 1, gap, rest, space, _, enough => by
    obtain ⟨others, shape⟩ := spelled.exists_cons
    rw [List.length_cons, List.length_append] at enough
    have read : Json.members? bound _ ([] ++ (text ++ rest)) = some (members, rest) :=
      spelled.members? gap_nil (by omega)
    have first := skipSpace_gap inner (text ++ rest)
    rw [shape, List.cons_append, skipSpace_cons rfl] at first
    rw [List.cons_append, List.append_assoc, shape, List.cons_append,
      value?_brace ((skipSpace_gap space _).trans (skipSpace_cons rfl _)) first,
      ← List.cons_append, ← shape, ← List.nil_append (text ++ rest), read]
    rfl

/-- A text that spells elements is read as the elements. -/
theorem SpellsElements.elements? {room : Nat} {text : List Char} {elements : List Json} :
    SpellsElements room text elements → ∀ {bound : Nat} {gap rest : List Char}, Gap gap →
      2 * text.length + 2 ≤ bound →
      elements? bound room (gap ++ (text ++ rest)) = some (elements, rest)
  | @SpellsElements.last _ text inside element spelled inner, bound + 1, gap, rest, space,
      enough => by
    simp only [List.length_append, List.length_cons, List.length_nil] at enough
    have ends : EndsNumeral (inside ++ ']' :: rest) :=
      endsNumeral_gap inner (endsNumeral_cons rfl (by decide))
    have read : Json.value? bound _ (gap ++ (text ++ (inside ++ ']' :: rest))) =
      some (element, inside ++ ']' :: rest) := spelled.value? space ends (by omega)
    rw [List.append_assoc, List.append_assoc, List.singleton_append, Json.elements?, read]
    dsimp only
    rw [(skipSpace_gap inner (']' :: rest)).trans (skipSpace_cons rfl rest)]
    rfl
  | @SpellsElements.cons _ text inside others element elements spelled inner behind, bound + 1,
      gap, rest, space, enough => by
    simp only [List.length_append, List.length_cons] at enough
    have ends : EndsNumeral (',' :: (inside ++ (others ++ rest))) :=
      endsNumeral_cons rfl (by decide)
    have read : Json.value? bound _ (gap ++ (text ++ ',' :: (inside ++ (others ++ rest)))) =
      some (element, ',' :: (inside ++ (others ++ rest))) := spelled.value? space ends (by omega)
    have later : Json.elements? bound _ (inside ++ (others ++ rest)) = some (elements, rest) :=
      behind.elements? inner (by omega)
    rw [List.append_assoc, List.cons_append, List.append_assoc, Json.elements?, read]
    dsimp only
    rw [skipSpace_cons rfl]
    exact congrArg (Option.map _) later

/-- A text that spells members is read as the members. -/
theorem SpellsMembers.members? {room : Nat} {text : List Char} {members : List (String × Json)} :
    SpellsMembers room text members → ∀ {bound : Nat} {gap rest : List Char}, Gap gap →
      2 * text.length + 2 ≤ bound →
      members? bound room (gap ++ (text ++ rest)) = some (members, rest)
  | @SpellsMembers.last _ name before text inside value first spelled inner, bound + 1, gap, rest,
      space, enough => by
    simp only [List.length_append, List.length_cons, List.length_nil] at enough
    have ends : EndsNumeral (inside ++ '\x7d' :: rest) :=
      endsNumeral_gap inner (endsNumeral_cons rfl (by decide))
    have read : Json.value? bound _ (before ++ (text ++ (inside ++ '\x7d' :: rest))) =
      some (value, inside ++ '\x7d' :: rest) := spelled.value? first ends (by omega)
    have shape : quoted name ++ ':' :: (before ++ (text ++ (inside ++ ['\x7d']))) ++ rest =
        quoted name ++ ':' :: (before ++ (text ++ (inside ++ '\x7d' :: rest))) := by simp
    have closes : skipSpace (inside ++ '\x7d' :: rest) = '\x7d' :: rest := by
      rw [skipSpace_gap inner, skipSpace_cons rfl]
    rw [shape, members?_last space read closes]
  | @SpellsMembers.cons _ name before text inside others value members first spelled inner behind,
      bound + 1, gap, rest, space, enough => by
    simp only [List.length_append, List.length_cons] at enough
    have ends : EndsNumeral (',' :: (inside ++ (others ++ rest))) :=
      endsNumeral_cons rfl (by decide)
    have read : Json.value? bound _ (before ++ (text ++ ',' :: (inside ++ (others ++ rest)))) =
      some (value, ',' :: (inside ++ (others ++ rest))) := spelled.value? first ends (by omega)
    have later : Json.members? bound _ (inside ++ (others ++ rest)) = some (members, rest) :=
      behind.members? inner (by omega)
    have shape : quoted name ++ ':' :: (before ++ (text ++ ',' :: (inside ++ others))) ++ rest =
        quoted name ++ ':' :: (before ++ (text ++ ',' :: (inside ++ (others ++ rest)))) := by simp
    rw [shape, members?_more space read (skipSpace_cons rfl _), later]
    rfl

end

end Reading

end PredictionMarket.Json
