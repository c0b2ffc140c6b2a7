import PredictionMarket.Yaml.Cursor
import PredictionMarket.Json.Quoted

/-!
# Tags

A tag states the kind of a node. It is a text of octets, which is written as a handle and
a suffix; the handle stands for the beginning of the tag. A suffix is written in ASCII
characters, and any other octet is written as a percent sign and two hexadecimal digits.
-/

namespace PredictionMarket.Yaml

/-- The octets of a text. -/
abbrev Octets := List UInt8

/-- The octets of a text in UTF-8. -/
def octetsOf (text : List Char) : Octets := text.flatMap String.utf8EncodeChar

namespace Tag

/-- The tag that YAML itself gives a name. -/
def core (name : String) : Octets := octetsOf ("tag:yaml.org,2002:".toList ++ name.toList)

/-- Whether a tag begins with an exclamation mark, as the tags of a document's own do. -/
def isLocal (tag : Octets) : Bool := tag.head? == some 33

/-- The name in a tag of a document's own, without the exclamation mark before it; the mark
alone is its own name. A tag that is no text in UTF-8 has no name. -/
def localName? (tag : Octets) : Option String :=
  match tag with
  | [] => none
  | mark :: name =>
    if mark = 33 then String.fromUTF8? ⟨(if name.isEmpty then [mark] else name).toArray⟩
    else none

/-- Whether a character may stand in a suffix as it is. Brackets and commas may only stand
in a tag between angle brackets and in what a handle stands for. -/
def isCharacter (isVerbatim : Bool) (c : Char) : Bool :=
  isNameCharacter c || c == ';' || c == '/' || c == '?' || c == ':' || c == '@' || c == '&' ||
    c == '=' || c == '+' || c == '$' || c == '.' || c == '!' || c == '~' || c == '*' ||
    c == '\'' || c == '(' || c == ')' ||
    (isVerbatim && (c == ',' || c == '[' || c == ']'))

/-- How many octets follow the first octet of a character. -/
def followers? (octet : Nat) : Option Nat :=
  if octet < 0x80 then some 0
  else if octet < 0xC0 then none
  else if octet < 0xE0 then some 1
  else if octet < 0xF0 then some 2
  else if octet < 0xF8 then some 3
  else none

/-- How many octets of a character are left behind the given one, if `owed` octets were to
come before it. -/
def owedAfter? (owed octet : Nat) : Option Nat :=
  match owed with
  | 0 => followers? octet
  | owed + 1 => if octet / 64 = 2 then some owed else none

/-- Reads the octets of a suffix and returns them with the rest of the text. `owed` counts
the octets that still belong to the character before. -/
def suffix? (isVerbatim : Bool) (owed : Nat) : List Char → Option (Octets × List Char)
  | '%' :: high :: low :: rest => do
    let high ← Json.hexValue? high
    let low ← Json.hexValue? low
    let octet := high * 16 + low
    let owed ← owedAfter? owed octet
    let (octets, rest) ← suffix? isVerbatim owed rest
    return (UInt8.ofNat octet :: octets, rest)
  | c :: rest =>
    if owed ≠ 0 ∨ c = '%' then none
    else if isCharacter isVerbatim c then
      (suffix? isVerbatim 0 rest).map fun (octets, rest) =>
        (String.utf8EncodeChar c ++ octets, rest)
    else some ([], c :: rest)
  | [] => if owed = 0 then some ([], []) else none

/-- Octets up to the first that is zero, which ends a tag. -/
def beforeZero (octets : Octets) : Octets := octets.takeWhile (· != 0)

/-- Reads a suffix at a cursor; `isNeeded` says that it must not be empty. -/
def suffixAt? (isVerbatim isNeeded : Bool) (cursor : Cursor) : Option (Octets × Cursor) := do
  let (octets, rest) ← suffix? isVerbatim 0 cursor.rest
  if isNeeded && octets.isEmpty then none
  else return (beforeZero octets, cursor.skip (cursor.rest.length - rest.length))

/-- Whether a tag ends here. -/
def endsHere (inFlow : Bool) (rest : List Char) : Bool :=
  endsWord rest || (inFlow && rest.head? == some ',')

/-- A tag as it is written. -/
structure Spelled where
  /-- The handle; it is empty if the suffix is the whole tag. -/
  handle : List Char
  suffix : Octets
deriving DecidableEq

/-- The handle of tags with nothing but an exclamation mark before the suffix. -/
def primaryHandle : List Char := ['!']

/-- The handle of the tags that YAML itself defines. -/
def secondaryHandle : List Char := ['!', '!']

/-- Reads a tag behind its first exclamation mark, up to its end or to the angle bracket
behind it. -/
def spelled? (cursor : Cursor) : Option (Spelled × Cursor) :=
  match cursor.rest with
  | '<' :: _ => do
    let (suffix, cursor) ← suffixAt? true true (cursor.skip 1)
    if cursor.rest.head? = some '>' then some (⟨[], suffix⟩, cursor.skip 1) else none
  | rest =>
    let name := rest.takeWhile isNameCharacter
    if (rest.drop name.length).head? = some '!' then do
      let (suffix, cursor) ← suffixAt? false true (cursor.skip (name.length + 1))
      return (⟨'!' :: name ++ ['!'], suffix⟩, cursor)
    else do
      let (suffix, cursor) ← suffixAt? false false cursor
      return (if suffix.isEmpty then ⟨[], octetsOf ['!']⟩ else ⟨primaryHandle, suffix⟩, cursor)

/-- Reads a tag behind its first exclamation mark. -/
def at? (inFlow : Bool) (cursor : Cursor) : Option (Spelled × Cursor) := do
  let (tag, cursor) ← spelled? cursor
  if endsHere inFlow cursor.rest then some (tag, cursor) else none

/-- What handles stand for. -/
abbrev Handles := List (List Char × Octets)

/-- What the two handles stand for that need no declaration. -/
def standardHandles : Handles := [(primaryHandle, octetsOf ['!']), (secondaryHandle, core "")]

/-- The tag that is spelled, given what handles stand for; a handle that stands for nothing
is refused. -/
def Spelled.octets? (handles : Handles) (tag : Spelled) : Option Octets :=
  if tag.handle.isEmpty then some tag.suffix
  else (handles.lookup tag.handle).map (· ++ tag.suffix)

end Tag

end PredictionMarket.Yaml
