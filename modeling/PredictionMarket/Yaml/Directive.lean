import PredictionMarket.Decimal.Digits
import PredictionMarket.Yaml.Tag

/-!
# Directives

A directive is a line before a document. It states the version of YAML or what a tag
handle stands for. A document states its version once and each handle once.
-/

namespace PredictionMarket.Yaml

/-- What a line before a document says. -/
inductive Directive where
  | version
  | handle (name : List Char) (meaning : Octets)
deriving DecidableEq

namespace Directive

/-- The most digits that a part of a version may have. -/
def mostVersionDigits : Nat := 9

/-- Reads a part of a version. -/
def versionPart? (cursor : Cursor) : Option (Nat × Cursor) :=
  let shown := cursor.rest.takeWhile Char.isDigit
  if shown.isEmpty ∨ mostVersionDigits < shown.length then none
  else some (Decimal.valueOf shown, cursor.skip shown.length)

/-- Reads a version. Only the versions 1.1 and 1.2 are known. -/
def version? (cursor : Cursor) : Option Cursor := do
  let (major, cursor) ← versionPart? cursor
  if cursor.rest.head? ≠ some '.' then none
  else
    let (minor, cursor) ← versionPart? (cursor.skip 1)
    if major = 1 ∧ (minor = 1 ∨ minor = 2) then some cursor else none

/-- Reads a handle that is declared: an exclamation mark, or a name between two. -/
def handleName? (cursor : Cursor) : Option (List Char × Cursor) :=
  match cursor.rest with
  | '!' :: rest =>
    let name := rest.takeWhile isNameCharacter
    if (rest.drop name.length).head? = some '!' then
      some ('!' :: name ++ ['!'], cursor.skip (name.length + 2))
    else if name.isEmpty then some (Tag.primaryHandle, cursor.skip 1)
    else none
  | _ => none

/-- Reads a handle and what it stands for. -/
def handle? (cursor : Cursor) : Option (Directive × Cursor) := do
  let (name, cursor) ← handleName? cursor
  if cursor.rest.head?.any isSpace then
    let (meaning, cursor) ← Tag.suffixAt? true true (cursor.skipWhile isSpace)
    if endsWord cursor.rest then some (.handle name meaning, cursor) else none
  else none

/-- Reads the rest of a line that holds nothing but blanks and a comment, and its break. -/
def restOfLine? (cursor : Cursor) : Option Cursor :=
  let cursor := cursor.skipWhile isSpace
  let cursor :=
    if cursor.rest.head? == some '#' then cursor.skipWhile fun c => !isBreak c else cursor
  if cursor.rest.head?.all isBreak then some cursor.skipBreak else none

/-- Reads a directive behind its percent sign, up to the next line. -/
def at? (cursor : Cursor) : Option (Directive × Cursor) := do
  let name := cursor.rest.takeWhile isNameCharacter
  let behind := (cursor.skip name.length).skipWhile isSpace
  if !endsWord (cursor.rest.drop name.length) then none
  else
    let (directive, behind) ←
      if name = ['Y', 'A', 'M', 'L'] then (version? behind).map fun cursor => (version, cursor)
      else if name = ['T', 'A', 'G'] then handle? behind
      else none
    return (directive, ← restOfLine? behind)

/-- Whether two directives state the version both, or the meaning of one handle. -/
def repeats : Directive → Directive → Bool
  | version, version => true
  | handle first _, handle second _ => first == second
  | _, _ => false

/-- What the handles of a document stand for, given the directives before it; two
directives that state the same are refused. -/
def handlesOf? (stated : List Directive) : Option Tag.Handles :=
  if stated.Pairwise fun first second => first.repeats second = false then
    let declared := stated.filterMap fun
      | version => none
      | handle name meaning => some (name, meaning)
    some (declared ++ Tag.standardHandles)
  else none

end Directive

end PredictionMarket.Yaml
