import PredictionMarket.Yaml.Lexer
import PredictionMarket.Yaml.Node

/-!
# Documents of tokens

The tokens of a text make up the nodes of one document. A text without a document holds an
absent node.
-/

namespace PredictionMarket.Yaml

/-- What the tokens before a place settle for those behind it. -/
structure Scope where
  /-- What tag handles stand for. -/
  handles : Tag.Handles
  /-- The names in use, each with the number of its last anchor. -/
  names : List (List Char × Nat)

namespace Scope

/-- The scope at the beginning of a document. -/
def start (handles : Tag.Handles) : Scope := ⟨handles, []⟩

/-- The number of an anchor of the given name, and the scope behind the anchor. -/
def anchor (scope : Scope) (name : List Char) : Nat × Scope :=
  let number := scope.names.length
  let others := scope.names.filter fun entry => entry.1 != name
  (number, { scope with names := (name, number) :: others })

end Scope

/-- A part of a document that was read, the scope behind it and the tokens behind it. -/
structure Parsed (α : Type) where
  value : α
  scope : Scope
  rest : List Token

namespace Parsed

/-- Changes what was read. -/
def map {α β : Type} (f : α → β) (parsed : Parsed α) : Parsed β :=
  ⟨f parsed.value, parsed.scope, parsed.rest⟩

/-- A node that takes no token. -/
def absent (scope : Scope) (rest : List Token) : Parsed Node :=
  ⟨Node.absent .none, scope, rest⟩

end Parsed

/-- Which block collections may begin at a place. -/
inductive Place where
  /-- None, as the place is inside a collection in flow style. -/
  | inFlow
  /-- Those that are indented. -/
  | inBlock
  /-- Those that are indented, and sequences that are not. -/
  | inMember
deriving DecidableEq

/-- Reads what is said about a node before its content: an anchor and a tag, in either
order. -/
def properties? (scope : Scope) (tokens : List Token) : Option (Parsed Properties) :=
  let anchored (name : List Char) (tag : Option Octets) (rest : List Token) :
      Parsed Properties :=
    let (number, scope) := scope.anchor name
    ⟨⟨tag, some number⟩, scope, rest⟩
  match tokens with
  | .anchor name :: .tag tag :: rest | .tag tag :: .anchor name :: rest =>
    (tag.octets? scope.handles).map fun tag => anchored name (some tag) rest
  | .anchor name :: rest => some (anchored name none rest)
  | .tag tag :: rest =>
    (tag.octets? scope.handles).map fun tag => ⟨⟨some tag, none⟩, scope, rest⟩
  | rest => some ⟨.none, scope, rest⟩

namespace Grammar

mutual

/-- Reads a node. `bound` is at least the number of steps. -/
def node? (bound : Nat) (place : Place) (scope : Scope) (tokens : List Token) :
    Option (Parsed Node) :=
  match bound with
  | 0 => none
  | bound + 1 =>
    match tokens with
    | .reference name :: rest =>
      (scope.names.lookup name).map fun number => ⟨.reference number, scope, rest⟩
    | tokens =>
      (properties? scope tokens).bind fun said =>
        content? bound place said.value said.scope said.rest

/-- Reads a node behind its properties; with properties given it may be left out. -/
def content? (bound : Nat) (place : Place) (properties : Properties) (scope : Scope)
    (tokens : List Token) : Option (Parsed Node) :=
  match bound with
  | 0 => none
  | bound + 1 =>
    match place, tokens with
    | _, .scalar text spelling :: rest =>
      some ⟨.scalar properties (String.ofList text) spelling, scope, rest⟩
    | _, .flowSequenceStart :: rest =>
      (flowElements? bound true scope rest).map (·.map (.sequence properties))
    | _, .flowMappingStart :: rest =>
      (flowMembers? bound true scope rest).map (·.map (.mapping properties))
    | .inBlock, .blockSequenceStart :: rest | .inMember, .blockSequenceStart :: rest =>
      (blockElements? bound scope rest).map (·.map (.sequence properties))
    | .inBlock, .blockMappingStart :: rest | .inMember, .blockMappingStart :: rest =>
      (blockMembers? bound scope rest).map (·.map (.mapping properties))
    | .inMember, .entry :: rest =>
      (looseElements? bound scope (.entry :: rest)).map (·.map (.sequence properties))
    | _, rest =>
      if properties.isGiven then some ⟨Node.absent properties, scope, rest⟩ else none

/-- Reads the remaining elements of a block sequence and its end. -/
def blockElements? (bound : Nat) (scope : Scope) (tokens : List Token) :
    Option (Parsed (List Node)) :=
  match bound with
  | 0 => none
  | bound + 1 =>
    match tokens with
    | .blockEnd :: rest => some ⟨[], scope, rest⟩
    | .entry :: rest => do
      let element ←
        if rest.head? = some .entry ∨ rest.head? = some .blockEnd then
          some (.absent scope rest)
        else node? bound .inBlock scope rest
      let others ← blockElements? bound element.scope element.rest
      return others.map (element.value :: ·)
    | _ => none

/-- Reads the remaining elements of a block sequence that is not indented. It ends before
the first token that is no dash. -/
def looseElements? (bound : Nat) (scope : Scope) (tokens : List Token) :
    Option (Parsed (List Node)) :=
  match bound with
  | 0 => none
  | bound + 1 =>
    match tokens with
    | .entry :: rest => do
      let element ←
        if rest.head? = some .entry ∨ Token.endsBlockNode rest then
          some (.absent scope rest)
        else node? bound .inBlock scope rest
      let others ← looseElements? bound element.scope element.rest
      return others.map (element.value :: ·)
    | rest => some ⟨[], scope, rest⟩

/-- Reads the remaining members of a block mapping and its end. A member without a colon
has no value. -/
def blockMembers? (bound : Nat) (scope : Scope) (tokens : List Token) :
    Option (Parsed (List (Node × Node))) :=
  match bound with
  | 0 => none
  | bound + 1 =>
    match tokens with
    | .blockEnd :: rest => some ⟨[], scope, rest⟩
    | .key :: rest => do
      let key ←
        if Token.endsBlockNode rest then some (.absent scope rest)
        else node? bound .inMember scope rest
      let value ←
        match key.rest with
        | .value :: rest =>
          if Token.endsBlockNode rest then some (.absent key.scope rest)
          else node? bound .inMember key.scope rest
        | rest => some (.absent key.scope rest)
      let others ← blockMembers? bound value.scope value.rest
      return others.map ((key.value, value.value) :: ·)
    | _ => none

/-- Reads the remaining elements of a sequence in flow style and its end. An element may be
a single member of a mapping. A key that is left out there takes the indicator behind it
along. -/
def flowElements? (bound : Nat) (isFirst : Bool) (scope : Scope) (tokens : List Token) :
    Option (Parsed (List Node)) :=
  match bound, isFirst, tokens with
  | 0, _, _ => none
  | _ + 1, _, .flowSequenceEnd :: rest => some ⟨[], scope, rest⟩
  | _ + 1, false, .comma :: .flowSequenceEnd :: rest => some ⟨[], scope, rest⟩
  | bound + 1, false, .comma :: rest => flowElement? bound scope rest
  | bound + 1, true, rest => flowElement? bound scope rest
  | _ + 1, false, _ => none

/-- Reads an element of a sequence in flow style and all that follows. -/
def flowElement? (bound : Nat) (scope : Scope) (tokens : List Token) :
    Option (Parsed (List Node)) :=
  match bound with
  | 0 => none
  | bound + 1 => do
    let element ←
      match tokens with
      | .key :: rest =>
        let key ←
          if rest.head? = some .value ∨ Token.endsFlowNode .flowSequenceEnd rest then
            some (.absent scope (rest.drop 1))
          else node? bound .inFlow scope rest
        (flowValue? bound .flowSequenceEnd key.scope key.rest).map
          (·.map fun value => .mapping .none [(key.value, value)])
      | rest => node? bound .inFlow scope rest
    let others ← flowElements? bound false element.scope element.rest
    return others.map (element.value :: ·)

/-- Reads the value of a member in flow style, if a colon says that it has one. -/
def flowValue? (bound : Nat) (close : Token) (scope : Scope) (tokens : List Token) :
    Option (Parsed Node) :=
  match bound with
  | 0 => none
  | bound + 1 =>
    match tokens with
    | .value :: rest =>
      if Token.endsFlowNode close rest then some (.absent scope rest)
      else node? bound .inFlow scope rest
    | rest => some (.absent scope rest)

/-- Reads the remaining members of a mapping in flow style and its end. -/
def flowMembers? (bound : Nat) (isFirst : Bool) (scope : Scope) (tokens : List Token) :
    Option (Parsed (List (Node × Node))) :=
  match bound, isFirst, tokens with
  | 0, _, _ => none
  | _ + 1, _, .flowMappingEnd :: rest => some ⟨[], scope, rest⟩
  | _ + 1, false, .comma :: .flowMappingEnd :: rest => some ⟨[], scope, rest⟩
  | bound + 1, false, .comma :: rest => flowMember? bound scope rest
  | bound + 1, true, rest => flowMember? bound scope rest
  | _ + 1, false, _ => none

/-- Reads a member of a mapping in flow style and all that follows. A node that is not
announced as a key has no value. -/
def flowMember? (bound : Nat) (scope : Scope) (tokens : List Token) :
    Option (Parsed (List (Node × Node))) :=
  match bound with
  | 0 => none
  | bound + 1 => do
    let member ←
      match tokens with
      | .key :: rest =>
        let key ←
          if rest.head? = some .value ∨ Token.endsFlowNode .flowMappingEnd rest then
            some (.absent scope rest)
          else node? bound .inFlow scope rest
        (flowValue? bound .flowMappingEnd key.scope key.rest).map
          (·.map fun value => (key.value, value))
      | rest =>
        (node? bound .inFlow scope rest).map (·.map fun key => (key, Node.absent .none))
    let others ← flowMembers? bound false member.scope member.rest
    return others.map (member.value :: ·)

end

/-- Reads a node that is the whole content of a document. -/
def root? (scope : Scope) (tokens : List Token) : Option (Parsed Node) :=
  node? (4 * tokens.length + 4) .inBlock scope tokens

/-- Reads the content of a document whose start is marked. -/
def marked? (scope : Scope) (tokens : List Token) : Option (Parsed Node) :=
  if Token.endsDocument tokens then some (.absent scope tokens) else root? scope tokens

/-- The directives with which tokens begin, and the tokens behind them. -/
def spanDirectives : List Token → List Directive × List Token
  | .directive stated :: rest =>
    let (others, rest) := spanDirectives rest
    (stated :: others, rest)
  | rest => ([], rest)

/-- Reads the first document of a list of tokens. A document that directives stand before
must be marked. -/
def first? (tokens : List Token) : Option (Parsed Node) := do
  let (stated, rest) := spanDirectives tokens
  let scope := Scope.start (← Directive.handlesOf? stated)
  match rest with
  | .documentStart :: rest => marked? scope rest
  | rest =>
    if !stated.isEmpty then none
    else if rest.isEmpty then some (.absent scope [])
    else root? scope rest

end Grammar

namespace Document

/-- The only document of a list of tokens. -/
def ofTokens? (tokens : List Token) : Option Document := do
  let parsed ← Grammar.first? tokens
  if (parsed.rest.dropWhile (· = .documentEnd)).isEmpty then some (ofRoot parsed.value)
  else none

/-- Reads the only document of a text. -/
def ofText? (text : String) : Option Document := (Token.ofText? text.toList).bind ofTokens?

end Document

end PredictionMarket.Yaml
