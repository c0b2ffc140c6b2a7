import PredictionMarket.Datum
import PredictionMarket.Yaml.Grammar
import PredictionMarket.Yaml.Plain

/-!
# Reading records from YAML

Where a text is wanted, any scalar gives its text as it is written. Truth values and
numbers are read from plain scalars, and from literal blocks whose tag asks for them; an
empty plain scalar is an empty list or an empty record where one is wanted. Where any
value may stand, a plain scalar is what it denotes.

An alias is read as the node that it stands for. Since a few aliases may stand for very
much, and even for a node around themselves, two limits apply: so many collections may be
read inside one another, and so many aliases be followed in all.
-/

namespace PredictionMarket.Yaml

/-- A reading of a document, with the number of aliases that may still be followed. -/
abbrev Reading := StateT Nat Option

namespace Document

/-- How many collections may be read inside one another. -/
def depthLimit : Nat := 128

/-- How many aliases may be followed for each unit of the size of a document. -/
def aliasesPerSize : Nat := 100

/-- How many aliases may be followed when a document is read. -/
def aliasLimit (document : Document) : Nat := document.root.size * aliasesPerSize

/-- The node itself, or the node that it stands for. -/
def followed (document : Document) (node : Node) : Reading Node :=
  match node with
  | .reference number => do
    match ← get with
    | 0 => failure
    | allowed + 1 =>
      set allowed
      (document.target? number).getM
  | node => pure node

/-- The text of a scalar, where a text is wanted. -/
def text (document : Document) (node : Node) : Reading String := do
  match ← document.followed node with
  | .scalar _ text _ => return text
  | _ => failure

end Document

/-- The JSON value of an integer that a machine word holds. -/
def jsonInteger? (n : Int) : Option Json :=
  (WordInt.ofInt? n).map fun word => .number (.integer word)

/-- The JSON value of what a plain scalar denotes. Integers of more than a machine word are
refused. -/
def jsonPlain? (text : String) : Option Json :=
  match denoted text.toList with
  | .nothing | .nonFinite => some .null
  | .truth value => some (.bool value)
  | .integer value => jsonInteger? value
  | .number value => some (.number (.double value))
  | .text => some (.string text)

/-- The JSON value of a scalar whose kind a tag states. -/
def jsonTagged? (tag : Octets) (text : String) (spelling : Spelling) : Option Json :=
  let shown := text.toList
  if tag = Tag.core "null" then (if isNothing shown then some .null else none)
  else if tag = Tag.core "bool" then (truth? shown).map .bool
  else if tag = Tag.core "int" then (integer? shown).bind jsonInteger?
  else if tag = Tag.core "float" then
    if isNonFinite shown then some .null
    else (number? shown).map fun value => .number (.double value)
  else if Tag.isLocal tag && spelling = .plain then jsonPlain? text
  else some (.string text)

/-- Whether a tag names an alternative, which no JSON value does. -/
def Properties.namesAlternative (properties : Properties) : Bool :=
  (properties.tag.bind Tag.localName?).isSome

/-- The JSON value of a scalar. -/
def jsonScalar? (properties : Properties) (text : String) (spelling : Spelling) :
    Option Json :=
  if properties.namesAlternative then none
  else
    match properties.tag, spelling with
    | some tag, spelling => jsonTagged? tag text spelling
    | none, .plain => jsonPlain? text
    | none, _ => some (.string text)

/-- The JSON value of a node. `room` is the number of collections that may still be read
inside one another. -/
def Document.json (document : Document) : (room : Nat) → Node → Reading Json
  | 0, node => do
    match ← document.followed node with
    | .scalar properties text spelling => (jsonScalar? properties text spelling).getM
    | _ => failure
  | room + 1, node => do
    match ← document.followed node with
    | .scalar properties text spelling => (jsonScalar? properties text spelling).getM
    | .sequence properties elements =>
      if properties.namesAlternative then failure
      else return .array (← elements.mapM (document.json room))
    | .mapping properties members =>
      if properties.namesAlternative then failure
      else
        let members ← members.mapM fun (key, value) => do
          return (← document.text key, ← document.json room value)
        return .ofMembers members
    | .reference _ => failure

/-- A node of a document as a value to be read. -/
structure Value where
  document : Document
  /-- How many collections may still be read inside one another. -/
  room : Nat
  node : Node

namespace Value

/-- The value itself, or the value that an alias stands for. -/
def followed (value : Value) : Reading Value := do
  return { value with node := ← value.document.followed value.node }

/-- How many collections may still be read inside a collection that is read. -/
def roomInside (value : Value) : Reading Nat :=
  match value.room with
  | 0 => failure
  | room + 1 => pure room

/-- The text of a scalar from which a truth value or a number may be read: a plain one, or
a literal block whose tag asks for the kind. -/
def typedText (kind : String) (value : Value) : Reading (List Char) := do
  match (← value.followed).node with
  | .scalar _ text .plain => return text.toList
  | .scalar properties text .literal =>
    if properties.tag = some (Tag.core kind) then return text.toList else failure
  | _ => failure

/-- The name of an alternative: the name in a tag of the document's own at a scalar that
says nothing, or the text of a scalar without such a tag. -/
def alternative (value : Value) : Reading String := do
  match (← value.followed).node with
  | .scalar properties text spelling =>
    match properties.tag.bind Tag.localName? with
    | some name =>
      if spelling = .plain ∧ (text.isEmpty ∨ isNothing text.toList) then return name else failure
    | none => return text
  | _ => failure

/-- The elements of a sequence. -/
def elements (value : Value) : Reading (List Value) := do
  let value ← value.followed
  match value.node with
  | .sequence _ elements =>
    let room ← value.roomInside
    return elements.map fun node => { value with room, node }
  | .scalar _ text .plain => if text.isEmpty then return [] else failure
  | _ => failure

/-- The members of a mapping whose keys are scalars. -/
def members (value : Value) : Reading (List (String × Value)) := do
  let value ← value.followed
  match value.node with
  | .mapping _ members =>
    let room ← value.roomInside
    members.mapM fun (key, node) => do
      return (← value.document.text key, { value with room, node })
  | .scalar _ text .plain => if text.isEmpty then return [] else failure
  | _ => failure

/-- Whether a plain scalar says that an optional value is absent. With a tag only the tag
of nothing does, and there it must be spelt. -/
def saysAbsent? (tag : Option Octets) (text : String) : Option Bool :=
  match tag with
  | none => some (text.isEmpty || isNothing text.toList)
  | some tag =>
    if tag = Tag.core "null" then (if isNothing text.toList then some true else none)
    else some false

/-- The value, unless it says that it is absent. -/
def present (value : Value) : Reading (Option Value) := do
  let value ← value.followed
  match value.node with
  | .scalar properties text .plain =>
    if ← (saysAbsent? properties.tag text).getM then return none else return some value
  | _ => return some value

/-- A node is read by the kind of value that is wanted. -/
instance : Datum Value Reading where
  text value := value.document.text value.node
  truth value := do (truth? (← value.typedText "bool")).getM
  natural value := do (natural? (← value.typedText "int")).getM
  alternative := alternative
  elements := elements
  members := members
  record _ := members
  present := present
  json value := value.document.json value.room value.node
  refuse := failure

end Value

/-- Reads what is wanted from the only document of a text. -/
def ofText? {α : Type} (read : Value → Reading α) (text : String) : Option α := do
  let document ← Document.ofText? text
  let value : Value := ⟨document, Document.depthLimit, document.root⟩
  (read value).run' document.aliasLimit

end PredictionMarket.Yaml
