import PredictionMarket.Yaml.Cursor
import PredictionMarket.Json.Quoted

/-!
# Scalars in YAML

The spellings of a scalar: plain, between single quotes, between double quotes, and as a
block of lines. In the first three a line break is folded: one break is a space, and of
several breaks the first is dropped. Reading a scalar returns its text and the cursor
behind it; nothing is returned for a text that breaks the rules.
-/

namespace PredictionMarket.Yaml

/-- What stands between two words of a scalar. -/
inductive Gap where
  /-- Spaces and tabs in one line. -/
  | spaces (text : List Char)
  /-- A first line break, and the breaks of the lines without words after it. -/
  | lines (first : Char) (later : List Char)
  /-- An escaped line break, and the breaks of the lines without words after it. -/
  | joined (later : List Char)

namespace Gap

/-- Two words that stand directly one after the other. -/
def none : Gap := spaces []

/-- Whether the gap reaches into a new line. -/
def isBroken : Gap → Bool
  | spaces _ => false
  | lines _ _ => true
  | joined _ => true

/-- The gap with one more space or tab, which counts for nothing in a new line. -/
def addSpace (gap : Gap) (c : Char) : Gap :=
  match gap with
  | spaces text => spaces (text ++ [c])
  | other => other

/-- The gap with one more line break. -/
def addBreak (gap : Gap) (c : Char) : Gap :=
  match gap with
  | spaces _ => lines (keptBreak c) []
  | lines first later => lines first (later ++ [keptBreak c])
  | joined later => joined (later ++ [keptBreak c])

/-- The text that a gap stands for. -/
def text : Gap → List Char
  | spaces text => text
  | lines first later =>
    if first = '\n' then (if later.isEmpty then [' '] else later) else first :: later
  | joined later => later

end Gap

/-- A scalar that was read: its text, the cursor behind it, and whether a line break was
passed after its last word. -/
structure Scanned where
  text : List Char
  cursor : Cursor
  broken : Bool

/-- The same scalar with more text before it. -/
def Scanned.prepend (before : List Char) (scanned : Scanned) : Scanned :=
  { scanned with text := before ++ scanned.text }

/-- Whether a plain scalar in flow style must not go on here: a colon before an indicator
of flow style. -/
def isStrayColon : List Char → Bool
  | ':' :: c :: _ => isFlowIndicator c || c == '?'
  | _ => false

/-- Whether a plain scalar ends here: at a colon that ends a key, and in flow style at any
indicator of that style. -/
def endsPlain (inFlow : Bool) : List Char → Bool
  | ':' :: rest => endsWord rest
  | c :: _ => inFlow && isFlowIndicator c
  | [] => true

/-- Reads a plain scalar from a place inside or behind one of its words. `indent` is the
least column of its words in new lines. -/
def plainFrom? (inFlow : Bool) (indent : Nat) (gap : Gap) (inWord : Bool)
    (index line column : Nat) : List Char → Option Scanned
  | [] => some ⟨[], ⟨[], index, line, column⟩, gap.isBroken⟩
  | '\r' :: '\n' :: rest =>
    plainFrom? inFlow indent (gap.addBreak '\n') false (index + 2) (line + 1) 0 rest
  | c :: rest =>
    let here : Scanned := ⟨[], ⟨c :: rest, index, line, column⟩, gap.isBroken⟩
    if isBreak c then
      plainFrom? inFlow indent (gap.addBreak c) false (index + 1) (line + 1) 0 rest
    else if isSpace c then
      if gap.isBroken && column < indent && c == '\t' then none
      else plainFrom? inFlow indent (gap.addSpace c) false (index + 1) line (column + 1) rest
    else if !inWord && (c == '#' || here.cursor.atDocumentMark ||
        (gap.isBroken && !inFlow && column < indent)) then some here
    else if inFlow && isStrayColon (c :: rest) then none
    else if endsPlain inFlow (c :: rest) then some here
    else
      (plainFrom? inFlow indent .none true (index + 1) line (column + 1) rest).map
        (·.prepend (gap.text ++ [c]))

/-- Reads a plain scalar at a cursor. -/
def plain? (inFlow : Bool) (indent : Nat) (cursor : Cursor) : Option Scanned :=
  plainFrom? inFlow indent .none false cursor.index cursor.line cursor.column cursor.rest

/-- Reads a scalar between single quotes behind its opening quote. A quote is written
twice. -/
def singleQuotedFrom? (gap : Gap) (index line column : Nat) : List Char → Option Scanned
  | [] => none
  | '\'' :: '\'' :: rest =>
    (singleQuotedFrom? .none (index + 2) line (column + 2) rest).map
      (·.prepend (gap.text ++ ['\'']))
  | '\r' :: '\n' :: rest =>
    singleQuotedFrom? (gap.addBreak '\n') (index + 2) (line + 1) 0 rest
  | c :: rest =>
    if c = '\'' then some ⟨gap.text, ⟨rest, index + 1, line, column + 1⟩, false⟩
    else if isBreak c then singleQuotedFrom? (gap.addBreak c) (index + 1) (line + 1) 0 rest
    else if isSpace c then singleQuotedFrom? (gap.addSpace c) (index + 1) line (column + 1) rest
    else if column == 0 && isDocumentMark (c :: rest) then none
    else
      (singleQuotedFrom? .none (index + 1) line (column + 1) rest).map
        (·.prepend (gap.text ++ [c]))

/-- The character that a one-letter escape between double quotes stands for. -/
def escaped? (c : Char) : Option Char :=
  match c with
  | '0' => some '\u0000'
  | 'a' => some '\u0007'
  | 'b' => some '\u0008'
  | 't' => some '\t'
  | '\t' => some '\t'
  | 'n' => some '\n'
  | 'v' => some '\u000b'
  | 'f' => some '\u000c'
  | 'r' => some '\r'
  | 'e' => some '\u001b'
  | ' ' => some ' '
  | '"' => some '"'
  | '/' => some '/'
  | '\\' => some '\\'
  | 'N' => some '\u0085'
  | '_' => some '\u00a0'
  | 'L' => some '\u2028'
  | 'P' => some '\u2029'
  | _ => none

/-- The number of hexadecimal digits after a letter of an escape. -/
def escapeWidth? (c : Char) : Option Nat :=
  match c with
  | 'x' => some 2
  | 'u' => some 4
  | 'U' => some 8
  | _ => none

/-- The number that hexadecimal digits denote. -/
def hexNumber? (start : Nat) : List Char → Option Nat
  | [] => some start
  | c :: rest => (Json.hexValue? c).bind fun digit => hexNumber? (start * 16 + digit) rest

/-- The character with a code point. -/
def character? (code : Nat) : Option Char :=
  if code ≤ 0x10FFFF ∧ ¬ (0xD800 ≤ code ∧ code ≤ 0xDFFF) then some (Char.ofNat code) else none

/-- What the characters behind a backslash stand for, and how many they are. -/
def escapeAt? : List Char → Option (Char × Nat)
  | [] => none
  | c :: rest =>
    match escaped? c with
    | some meant => some (meant, 1)
    | none => do
      let width ← escapeWidth? c
      let shown := rest.take width
      if shown.length < width then none
      else
        let code ← hexNumber? 0 shown
        let meant ← character? code
        return (meant, width + 1)

/-- Reads a scalar between double quotes behind its opening quote, after as many characters
as are to be skipped, which belong to an escape. -/
def doubleQuotedFrom? (gap : Gap) (skip index line column : Nat) : List Char → Option Scanned
  | [] => none
  | c :: rest =>
    match skip with
    | skip + 1 => doubleQuotedFrom? gap skip (index + 1) line (column + 1) rest
    | 0 =>
      if c = '"' then some ⟨gap.text, ⟨rest, index + 1, line, column + 1⟩, false⟩
      else if c = '\r' && rest.head? == some '\n' then
        match rest with
        | [] => none
        | _ :: rest => doubleQuotedFrom? (gap.addBreak '\n') 0 (index + 2) (line + 1) 0 rest
      else if isBreak c then doubleQuotedFrom? (gap.addBreak c) 0 (index + 1) (line + 1) 0 rest
      else if isSpace c then
        doubleQuotedFrom? (gap.addSpace c) 0 (index + 1) line (column + 1) rest
      else if column == 0 && isDocumentMark (c :: rest) then none
      else if c = '\\' then
        match rest with
        | '\r' :: '\n' :: rest =>
          (doubleQuotedFrom? (.joined []) 0 (index + 3) (line + 1) 0 rest).map
            (·.prepend gap.text)
        | head :: tail =>
          if isBreak head then
            (doubleQuotedFrom? (.joined []) 0 (index + 2) (line + 1) 0 tail).map
              (·.prepend gap.text)
          else
            match escapeAt? (head :: tail) with
            | some (meant, width) =>
              (doubleQuotedFrom? .none width (index + 1) line (column + 1) (head :: tail)).map
                (·.prepend (gap.text ++ [meant]))
            | none => none
        | [] => none
      else
        (doubleQuotedFrom? .none 0 (index + 1) line (column + 1) rest).map
          (·.prepend (gap.text ++ [c]))

/-- What happens to the line breaks at the end of a block. -/
inductive Chomping where
  /-- None is kept. -/
  | strip
  /-- The first one is kept. -/
  | clip
  /-- All are kept. -/
  | keep
deriving DecidableEq

/-- What the first line of a block scalar says: chomping, and the indentation of the lines
beyond that of the collection around it, if it is given. -/
structure BlockHeader where
  chomping : Chomping
  increment : Option Nat

/-- Reads a chomping indicator. -/
def chomping? : List Char → Option Chomping
  | '+' :: _ => some .keep
  | '-' :: _ => some .strip
  | _ => none

/-- Reads an indentation indicator; zero is refused. -/
def increment? : List Char → Option (Option Nat)
  | c :: _ =>
    if c == '0' then none
    else if c.isDigit then some (some (c.toNat - '0'.toNat))
    else some none
  | [] => some none

/-- Reads the indicators behind the sign of a block scalar, in either order. -/
def blockHeader? (cursor : Cursor) : Option (BlockHeader × Cursor) :=
  match chomping? cursor.rest with
  | some chomping => do
    let cursor := cursor.skip 1
    let increment ← increment? cursor.rest
    return (⟨chomping, increment⟩, cursor.skip (if increment.isSome then 1 else 0))
  | none => do
    let increment ← increment? cursor.rest
    let cursor := cursor.skip (if increment.isSome then 1 else 0)
    match increment, chomping? cursor.rest with
    | some _, some chomping => return (⟨chomping, increment⟩, cursor.skip 1)
    | _, _ => return (⟨.clip, increment⟩, cursor)

/-- Passes lines without text. Returns their breaks, the cursor at the next text, and the
greatest column that spaces reached. With an indentation given, no more spaces than that
are passed in a line; a tab among the spaces is refused. -/
def emptyLines? (indent : Option Nat) (widest index line column : Nat) :
    List Char → Option (List Char × Cursor × Nat)
  | [] => some ([], ⟨[], index, line, column⟩, max widest column)
  | '\r' :: '\n' :: rest =>
    (emptyLines? indent (max widest column) (index + 2) (line + 1) 0 rest).map
      fun (breaks, found) => ('\n' :: breaks, found)
  | c :: rest =>
    let inIndent :=
      match indent with
      | some indent => column < indent
      | none => true
    if inIndent && c == ' ' then emptyLines? indent widest (index + 1) line (column + 1) rest
    else if inIndent && c == '\t' then none
    else if isBreak c then
      (emptyLines? indent (max widest column) (index + 1) (line + 1) 0 rest).map
        fun (breaks, found) => (keptBreak c :: breaks, found)
    else some ([], ⟨c :: rest, index, line, column⟩, max widest column)

/-- The break at a cursor as it is kept in a text; nothing at the end of the text. -/
def breakAt (cursor : Cursor) : List Char :=
  match cursor.rest with
  | [] => []
  | c :: _ => [keptBreak c]

/-- The text of a line break between two lines of a block. In a folded block a break
between two lines that do not begin with a space becomes a space, or nothing if empty
lines follow it. -/
def blockBreak (literal : Bool) (first later : List Char) (spaced : Bool) : List Char :=
  if !literal && first == ['\n'] && !spaced then
    (if later.isEmpty then [' '] else later)
  else first ++ later

/-- Reads the lines of a block. `first` and `later` are the breaks since the last line, and
`wasSpaced` tells whether that line began with a space. `bound` is at least the number of
lines. -/
def blockLines? (literal : Bool) (chomping : Chomping) (indent : Nat) (bound : Nat)
    (first later : List Char) (wasSpaced : Bool) (cursor : Cursor) : Option Scanned :=
  match bound with
  | 0 => none
  | bound + 1 =>
    match cursor.rest with
    | c :: _ =>
      if cursor.column = indent then
        let isSpaced := isSpace c
        let shown := cursor.rest.takeWhile fun c => !isBreak c
        let lineEnd := cursor.skip shown.length
        let next := lineEnd.skipBreak
        match emptyLines? (some indent) 0 next.index next.line next.column next.rest with
        | none => none
        | some (breaks, found, _) =>
          let before := blockBreak literal first later (wasSpaced || isSpaced)
          (blockLines? literal chomping indent bound (breakAt lineEnd) breaks isSpaced found).map
            (·.prepend (before ++ shown))
      else blockEnd chomping first later cursor
    | [] => blockEnd chomping first later cursor
where
  /-- What is left of the line breaks at the end of a block. -/
  blockEnd (chomping : Chomping) (first later : List Char) (cursor : Cursor) : Option Scanned :=
    let kept :=
      match chomping with
      | .strip => []
      | .clip => first
      | .keep => first ++ later
    some ⟨kept, cursor, true⟩

/-- Reads a block scalar behind its sign. `outer` is the least column of text inside the
collection around it. -/
def block? (literal : Bool) (outer : Nat) (cursor : Cursor) : Option Scanned := do
  let (header, cursor) ← blockHeader? cursor
  let cursor := cursor.skipWhile isSpace
  let cursor :=
    if cursor.rest.head? == some '#' then cursor.skipWhile fun c => !isBreak c else cursor
  if !(cursor.rest.head?.map isBreak).getD true then none
  else
    let cursor := cursor.skipBreak
    let given := header.increment.map fun increment => (outer - 1) + increment
    let (breaks, found, widest) ←
      emptyLines? given 0 cursor.index cursor.line cursor.column cursor.rest
    let indent := given.getD (max (max widest outer) 1)
    blockLines? literal header.chomping indent (found.rest.length + 1) [] breaks false found

end PredictionMarket.Yaml
