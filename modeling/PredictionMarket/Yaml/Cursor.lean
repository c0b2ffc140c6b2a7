import PredictionMarket.Yaml.Character

/-!
# Places in a YAML text

A cursor is the rest of a text and the place at which it begins. Whether a node is a key
or continues an outer collection depends on that place.
-/

namespace PredictionMarket.Yaml

/-- The rest of a text and where it begins. -/
structure Cursor where
  rest : List Char
  /-- The number of characters before. -/
  index : Nat
  /-- The number of line breaks before. -/
  line : Nat
  /-- The number of characters before in the same line. -/
  column : Nat

namespace Cursor

/-- The beginning of a text. -/
def start (text : List Char) : Cursor := ⟨text, 0, 0, 0⟩

/-- The cursor behind a number of characters of the same line. -/
def skip (cursor : Cursor) (count : Nat) : Cursor where
  rest := cursor.rest.drop count
  index := cursor.index + count
  line := cursor.line
  column := cursor.column + count

/-- The cursor behind the characters of the same line that a test accepts. -/
def skipWhile (cursor : Cursor) (accepts : Char → Bool) : Cursor :=
  cursor.skip (cursor.rest.takeWhile accepts).length

/-- The cursor behind a line break; it stays where it is if there is none. -/
def skipBreak (cursor : Cursor) : Cursor :=
  match cursor.rest with
  | '\r' :: '\n' :: rest => ⟨rest, cursor.index + 2, cursor.line + 1, 0⟩
  | c :: rest => if isBreak c then ⟨rest, cursor.index + 1, cursor.line + 1, 0⟩ else cursor
  | [] => cursor

/-- Whether a document mark stands at the cursor. -/
def atDocumentMark (cursor : Cursor) : Bool :=
  cursor.column == 0 && isDocumentMark cursor.rest

end Cursor

end PredictionMarket.Yaml
