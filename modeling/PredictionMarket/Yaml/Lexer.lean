import PredictionMarket.Yaml.Mark
import PredictionMarket.Yaml.Scalar
import PredictionMarket.Yaml.Token

/-!
# Tokens of a YAML text

A text is read from left to right. A key in block style is recognised only by the colon
behind it, so each place where a key may begin is remembered, and the tokens that
announce the key are put there once the colon is found. In flow style the same is
remembered for every open collection.
-/

namespace PredictionMarket.Yaml

/-- A place where a key may begin. -/
structure PendingKey where
  /-- The number of tokens before. -/
  position : Nat
  index : Nat
  line : Nat
  column : Nat
  /-- Whether nothing but a key may stand at the place. -/
  isRequired : Bool

namespace PendingKey

/-- Whether a colon at the cursor can still end the key: it stands in the same line and no
more than 1024 characters behind. -/
def isFresh (pending : PendingKey) (cursor : Cursor) : Bool :=
  pending.line == cursor.line && cursor.index ≤ pending.index + 1024

/-- What is left of a pending key at a cursor; a required key must not be left behind. -/
def settled? (cursor : Cursor) : Option PendingKey → Option (Option PendingKey)
  | none => some none
  | some pending =>
    if pending.isFresh cursor then some (some pending)
    else if pending.isRequired then none
    else some none

end PendingKey

/-- What is known in the midst of a text. -/
structure Lexer where
  cursor : Cursor
  /-- The tokens so far, the last one first. -/
  tokens : List Token
  /-- The columns of the open block collections, the innermost first. -/
  indents : List Nat
  /-- The place where a key may begin in the innermost collection. -/
  pending : Option PendingKey
  /-- The same for each collection around an open collection in flow style. -/
  outer : List (Option PendingKey)
  /-- Whether a key may begin at the cursor. -/
  keyAllowed : Bool

namespace Lexer

/-- The beginning of a text. -/
def start (text : List Char) : Lexer := ⟨.start text, [], [], none, [], true⟩

/-- Whether the cursor is inside a collection in flow style. -/
def inFlow (lexer : Lexer) : Bool := !lexer.outer.isEmpty

/-- The least column of text that belongs to the innermost block collection. -/
def innerColumn (lexer : Lexer) : Nat :=
  match lexer.indents with
  | [] => 0
  | indent :: _ => indent + 1

/-- One more token, and the cursor behind it. -/
def add (lexer : Lexer) (token : Token) (cursor : Cursor) : Lexer :=
  { lexer with tokens := token :: lexer.tokens, cursor }

/-- Puts a token behind the given number of tokens. -/
def insert (lexer : Lexer) (position : Nat) (token : Token) : Lexer :=
  let later := lexer.tokens.length - position
  { lexer with tokens := lexer.tokens.take later ++ token :: lexer.tokens.drop later }

/-- Passes spaces, comments, line breaks and a byte order mark before each line. In block
style a key may begin in the next line, and a tab must not stand where a key may begin. -/
def skipGap (inFlow keyAllowed inComment : Bool) (index line column : Nat) :
    List Char → Cursor × Bool
  | [] => (⟨[], index, line, column⟩, keyAllowed)
  | '\r' :: '\n' :: rest =>
    skipGap inFlow (keyAllowed || !inFlow) false (index + 2) (line + 1) 0 rest
  | c :: rest =>
    if isBreak c then skipGap inFlow (keyAllowed || !inFlow) false (index + 1) (line + 1) 0 rest
    else if c == byteOrderMark && column == 0 then
      skipGap inFlow keyAllowed false (index + 1) line 1 rest
    else if inComment || c == '#' then
      skipGap inFlow keyAllowed true (index + 1) line (column + 1) rest
    else if c == ' ' || (c == '\t' && (inFlow || !keyAllowed)) then
      skipGap inFlow keyAllowed false (index + 1) line (column + 1) rest
    else (⟨c :: rest, index, line, column⟩, keyAllowed)

/-- Moves to the next token. -/
def toToken (lexer : Lexer) : Lexer :=
  let (cursor, keyAllowed) :=
    skipGap lexer.inFlow lexer.keyAllowed false lexer.cursor.index lexer.cursor.line
      lexer.cursor.column lexer.cursor.rest
  { lexer with cursor, keyAllowed }

/-- Forgets the places that the cursor has left behind. -/
def settled? (lexer : Lexer) : Option Lexer := do
  let pending ← PendingKey.settled? lexer.cursor lexer.pending
  let outer ← lexer.outer.mapM (PendingKey.settled? lexer.cursor)
  return { lexer with pending, outer }

/-- Gives up the place where a key may begin, unless a key is required there. -/
def withoutKey? (lexer : Lexer) : Option Lexer :=
  if lexer.pending.any PendingKey.isRequired then none else some { lexer with pending := none }

/-- Remembers the cursor as a place where a key may begin, if one may. -/
def withKey? (lexer : Lexer) : Option Lexer :=
  if !lexer.keyAllowed then some lexer
  else do
    let lexer ← lexer.withoutKey?
    return { lexer with
      pending := some {
        position := lexer.tokens.length
        index := lexer.cursor.index
        line := lexer.cursor.line
        column := lexer.cursor.column
        isRequired := !lexer.inFlow && lexer.indents.head? == some lexer.cursor.column } }

/-- Begins a block collection at a column, unless one of that column or a greater one is
open. -/
def beginBlock (lexer : Lexer) (column position : Nat) (token : Token) : Lexer :=
  if lexer.inFlow || column < lexer.innerColumn then lexer
  else { lexer.insert position token with indents := column :: lexer.indents }

/-- Ends the block collections whose column is greater than the given one. -/
def endBlocks (lexer : Lexer) (column : Nat) : Lexer :=
  if lexer.inFlow then lexer
  else
    let ended := lexer.indents.takeWhile (column < ·)
    { lexer with
      tokens := List.replicate ended.length .blockEnd ++ lexer.tokens
      indents := lexer.indents.drop ended.length }

/-- Ends all block collections. -/
def endAllBlocks (lexer : Lexer) : Lexer :=
  if lexer.inFlow then lexer
  else
    { lexer with
      tokens := List.replicate lexer.indents.length .blockEnd ++ lexer.tokens
      indents := [] }

/-- Begins a collection in flow style. -/
def openFlow? (lexer : Lexer) (token : Token) : Option Lexer := do
  let lexer ← lexer.withKey?
  return { lexer.add token (lexer.cursor.skip 1) with
    pending := none
    outer := lexer.pending :: lexer.outer
    keyAllowed := true }

/-- Ends a collection in flow style. -/
def closeFlow? (lexer : Lexer) (token : Token) : Option Lexer := do
  let lexer ← lexer.withoutKey?
  return { lexer.add token (lexer.cursor.skip 1) with
    pending := lexer.outer.head?.getD none
    outer := lexer.outer.tail
    keyAllowed := false }

/-- Reads a comma. -/
def comma? (lexer : Lexer) : Option Lexer := do
  let lexer ← lexer.withoutKey?
  return { lexer.add .comma (lexer.cursor.skip 1) with keyAllowed := true }

/-- Reads the dash before an element of a block sequence. -/
def entry? (lexer : Lexer) : Option Lexer :=
  if !lexer.inFlow && !lexer.keyAllowed then none
  else do
    let lexer :=
      lexer.beginBlock lexer.cursor.column lexer.tokens.length .blockSequenceStart
    let lexer ← lexer.withoutKey?
    return { lexer.add .entry (lexer.cursor.skip 1) with keyAllowed := true }

/-- Reads the question mark before a key. -/
def key? (lexer : Lexer) : Option Lexer :=
  if !lexer.inFlow && !lexer.keyAllowed then none
  else do
    let lexer :=
      lexer.beginBlock lexer.cursor.column lexer.tokens.length .blockMappingStart
    let lexer ← lexer.withoutKey?
    return { lexer.add .key (lexer.cursor.skip 1) with keyAllowed := !lexer.inFlow }

/-- Reads the colon before a value. -/
def value? (lexer : Lexer) : Option Lexer :=
  match lexer.pending with
  | some pending =>
    let lexer := lexer.insert pending.position .key
    let lexer := lexer.beginBlock pending.column pending.position .blockMappingStart
    some { lexer.add .value (lexer.cursor.skip 1) with pending := none, keyAllowed := false }
  | none =>
    if !lexer.inFlow && !lexer.keyAllowed then none
    else
      let lexer :=
        lexer.beginBlock lexer.cursor.column lexer.tokens.length .blockMappingStart
      some { lexer.add .value (lexer.cursor.skip 1) with keyAllowed := !lexer.inFlow }

/-- Adds a scalar that was read at the cursor. -/
def addScalar (lexer : Lexer) (scanned : Scanned) (spelling : Spelling) : Lexer :=
  { lexer.add (.scalar scanned.text spelling) scanned.cursor with keyAllowed := scanned.broken }

/-- Reads a plain scalar. -/
def plainScalar? (lexer : Lexer) : Option Lexer := do
  let lexer ← lexer.withKey?
  return lexer.addScalar (← plain? lexer.inFlow lexer.innerColumn lexer.cursor) .plain

/-- Reads a scalar between single quotes. -/
def singleQuoted? (lexer : Lexer) : Option Lexer := do
  let lexer ← lexer.withKey?
  let inner := lexer.cursor.skip 1
  return lexer.addScalar
    (← singleQuotedFrom? .none inner.index inner.line inner.column inner.rest) .other

/-- Reads a scalar between double quotes. -/
def doubleQuoted? (lexer : Lexer) : Option Lexer := do
  let lexer ← lexer.withKey?
  let inner := lexer.cursor.skip 1
  return lexer.addScalar
    (← doubleQuotedFrom? .none 0 inner.index inner.line inner.column inner.rest) .other

/-- Reads a block scalar. -/
def blockScalar? (lexer : Lexer) (literal : Bool) : Option Lexer := do
  let lexer ← lexer.withoutKey?
  let scanned ← block? literal lexer.innerColumn (lexer.cursor.skip 1)
  return lexer.addScalar scanned (if literal then .literal else .other)

/-- Reads an anchor, an alias or a tag. -/
def mark? {α : Type} (lexer : Lexer) (read : Cursor → Option (α × Cursor))
    (token : α → Token) : Option Lexer := do
  let lexer ← lexer.withKey?
  let (found, cursor) ← read (lexer.cursor.skip 1)
  return { lexer.add (token found) cursor with keyAllowed := false }

/-- Reads a token between documents. -/
def frame? (lexer : Lexer) (token : Token) (behind : Cursor) : Option Lexer := do
  let lexer ← lexer.endAllBlocks.withoutKey?
  return { lexer.add token behind with keyAllowed := false }

/-- Reads a directive. -/
def directive? (lexer : Lexer) : Option Lexer := do
  let (stated, behind) ← Directive.at? (lexer.cursor.skip 1)
  lexer.frame? (.directive stated) behind

/-- Reads the token that begins with the given character. -/
def next? (lexer : Lexer) (c : Char) : Option Lexer :=
  let isAlone := endsWord (lexer.cursor.rest.drop 1)
  if lexer.cursor.column == 0 && c == '%' then lexer.directive?
  else if lexer.cursor.atDocumentMark then
    lexer.frame? (if c == '-' then .documentStart else .documentEnd) (lexer.cursor.skip 3)
  else if c == '[' then lexer.openFlow? .flowSequenceStart
  else if c == '\x7b' then lexer.openFlow? .flowMappingStart
  else if c == ']' then lexer.closeFlow? .flowSequenceEnd
  else if c == '\x7d' then lexer.closeFlow? .flowMappingEnd
  else if c == ',' then lexer.comma?
  else if c == '-' && isAlone then lexer.entry?
  else if c == '?' && (lexer.inFlow || isAlone) then lexer.key?
  else if c == ':' && (lexer.inFlow || isAlone) then lexer.value?
  else if c == '*' then lexer.mark? name? .reference
  else if c == '&' then lexer.mark? name? .anchor
  else if c == '!' then lexer.mark? (Tag.at? lexer.inFlow) .tag
  else if c == '|' && !lexer.inFlow then lexer.blockScalar? true
  else if c == '>' && !lexer.inFlow then lexer.blockScalar? false
  else if c == '\'' then lexer.singleQuoted?
  else if c == '"' then lexer.doubleQuoted?
  else if c == '-' || c == '?' || c == ':' || !(isIndicator c || c == '\t') then
    lexer.plainScalar?
  else none

/-- Reads the remaining tokens. `bound` is at least their number. -/
def tokens? (bound : Nat) (lexer : Lexer) : Option (List Token) :=
  match bound with
  | 0 => none
  | bound + 1 =>
    match lexer.toToken.settled? with
    | none => none
    | some lexer =>
      match lexer.cursor.rest with
      | [] => (lexer.endAllBlocks.withoutKey?).map fun lexer => lexer.tokens.reverse
      | c :: _ => ((lexer.endBlocks lexer.cursor.column).next? c).bind (tokens? bound)

end Lexer

/-- The tokens of a text. Every token but those that end the text takes a character. -/
def Token.ofText? (text : List Char) : Option (List Token) :=
  if text.all isAllowed then (Lexer.start text).tokens? (text.length + 1) else none

end PredictionMarket.Yaml
