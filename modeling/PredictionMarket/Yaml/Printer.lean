import PredictionMarket.Yaml.Character
import PredictionMarket.Yaml.Plain

/-!
# Writing YAML

A text is written plain where that reads back as the same text. Otherwise it stands
between single quotes; with line feeds it is a literal block; and what neither can hold
stands between double quotes. Records are written in block style, one field in a line.
-/

namespace PredictionMarket.Yaml

/-- Whether a character can be written as it is. -/
def isPrintable (c : Char) : Bool :=
  c == '\n' || (' ' ≤ c && c ≤ '~') ||
    ('\u00a0' ≤ c && c ≤ '\ufffd' && c != byteOrderMark) || 0x10000 ≤ c.toNat

/-- How a scalar is written. -/
inductive Style where
  | plain
  | singleQuoted
  | doubleQuoted
  | literal
deriving DecidableEq

namespace Style

/-- Whether two characters that pass the tests stand side by side. -/
def hasPair (first second : Char → Bool) : List Char → Bool
  | a :: b :: rest => (first a && second b) || hasPair first second (b :: rest)
  | _ => false

/-- Whether a character is a space. -/
def isBlank (c : Char) : Bool := c == ' '

/-- Whether a text holds a colon that would end a key, or a number sign that would begin a
comment. `afterBlank` says whether a blank stands before the text. -/
def hasMark (afterBlank : Bool) : List Char → Bool
  | [] => false
  | c :: rest =>
    (c == ':' && endsWord rest) || (c == '#' && afterBlank) || hasMark (endsWord [c]) rest

/-- Whether the start of a text would be taken for something else than a plain scalar. -/
def hasIndicator : List Char → Bool
  | '-' :: '-' :: '-' :: _ => true
  | '.' :: '.' :: '.' :: _ => true
  | c :: rest =>
    if c == '-' || c == '?' || c == ':' then endsWord rest else isIndicator c
  | [] => false

/-- Whether spaces or characters forbid to write a text as lines. -/
def isBlockable (text : List Char) : Bool :=
  text.all isPrintable && !hasPair isBlank isBreak text && text.getLast? != some ' '

/-- Whether a text can stand between single quotes. -/
def isQuotable (text : List Char) : Bool :=
  text.all isPrintable && !hasPair isBlank isBreak text && !hasPair isBreak isBlank text

/-- Whether a text can be written plain. -/
def isPlainable (text : List Char) : Bool :=
  text.all (fun c => isPrintable c && !isBreak c) && text.head? != some ' ' &&
    text.getLast? != some ' ' && !hasIndicator text &&
    !hasMark (endsWord (text.take 1)) (text.drop 1)

/-- How a text is written. -/
def ofText (text : List Char) : Style :=
  if text.contains '\n' then
    if isBlockable text then literal else doubleQuoted
  else if denotesText text && !isZeroPadded text && isPlainable text then plain
  else if isQuotable text then singleQuoted
  else doubleQuoted

end Style

/-- A text between single quotes; a quote is written twice. After a line break the next
line is indented. -/
def singleQuoted (indent : Nat) (text : List Char) : List Char :=
  '\'' :: inside false text
where
  /-- The text and the closing quote; `newLine` says that a line break comes before. -/
  inside (newLine : Bool) : List Char → List Char
    | [] => (if newLine then List.replicate indent ' ' else []) ++ ['\'']
    | c :: rest =>
      if isBreak c then c :: inside true rest
      else
        (if newLine then List.replicate indent ' ' else []) ++
          (if c = '\'' then ['\'', '\''] else [c]) ++ inside false rest

/-- The letter of a one-letter escape between double quotes. -/
def escapeLetter? (c : Char) : Option Char :=
  match c with
  | '\u0000' => some '0'
  | '\u0007' => some 'a'
  | '\u0008' => some 'b'
  | '\t' => some 't'
  | '\n' => some 'n'
  | '\u000b' => some 'v'
  | '\u000c' => some 'f'
  | '\r' => some 'r'
  | '\u001b' => some 'e'
  | '"' => some '"'
  | '\\' => some '\\'
  | '\u0085' => some 'N'
  | '\u2028' => some 'L'
  | '\u2029' => some 'P'
  | _ => none

/-- The code point of a character in a given number of upper-case hexadecimal digits. -/
def hexDigits (width : Nat) (code : Nat) : List Char :=
  let shown := (Nat.toDigits 16 code).map Char.toUpper
  List.replicate (width - shown.length) '0' ++ shown

/-- A character between double quotes. -/
def doubleQuotedCharacter (c : Char) : List Char :=
  if isPrintable c && !isBreak c && c != '"' && c != '\\' then [c]
  else
    match escapeLetter? c with
    | some letter => ['\\', letter]
    | none =>
      let code := c.toNat
      if code ≤ 0xFF then '\\' :: 'x' :: hexDigits 2 code
      else if code ≤ 0xFFFF then '\\' :: 'u' :: hexDigits 4 code
      else '\\' :: 'U' :: hexDigits 8 code

/-- A text between double quotes. -/
def doubleQuoted (text : List Char) : List Char :=
  '"' :: text.flatMap doubleQuotedCharacter ++ ['"']

/-- What the first line of a literal block says: the indentation, if the text begins with
a space or a line break, and what happens to the line breaks at the end. -/
def literalHeader (text : List Char) : List Char :=
  let increment := if text.head?.any fun c => c == ' ' || isBreak c then ['2'] else []
  let chomping :=
    match text.reverse with
    | last :: rest =>
      if !isBreak last then ['-']
      else if (rest.head?.map isBreak).getD true then ['+']
      else []
    | [] => ['-']
  '|' :: increment ++ chomping

/-- The lines of a literal block and the break behind it. Empty lines are not indented. -/
def literalLines (indent : Nat) (text : List Char) : List Char := lines true text
where
  /-- The lines from a place on; `newLine` says that a line begins there. -/
  lines (newLine : Bool) : List Char → List Char
    | [] => if newLine then [] else ['\n']
    | c :: rest =>
      if isBreak c then c :: lines true rest
      else (if newLine then List.replicate indent ' ' else []) ++ c :: lines false rest

/-- A text as a scalar, with the line break behind it. `indent` is the indentation of
further lines. -/
def scalarText (indent : Nat) (text : List Char) : List Char :=
  match Style.ofText text with
  | .plain => text ++ ['\n']
  | .singleQuoted => singleQuoted indent text ++ ['\n']
  | .doubleQuoted => doubleQuoted text ++ ['\n']
  | .literal => literalHeader text ++ '\n' :: literalLines indent text

/-- The value of a field of a record. -/
inductive Entry where
  | text (value : String)
  | truth (value : Bool)
  | record (fields : List (String × Entry))

mutual

/-- The fields of a record, each in lines of its own. -/
def fieldsText (indent : Nat) : List (String × Entry) → List Char
  | [] => []
  | (name, entry) :: rest =>
    List.replicate indent ' ' ++ name.toList ++ ':' :: entryText indent entry ++
      fieldsText indent rest

/-- The value of a field behind its colon. -/
def entryText (indent : Nat) : Entry → List Char
  | .text value => ' ' :: scalarText (indent + 2) value.toList
  | .truth value => (if value then " true\n" else " false\n").toList
  | .record fields => '\n' :: fieldsText (indent + 2) fields

end

end PredictionMarket.Yaml
