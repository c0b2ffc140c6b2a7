import PredictionMarket.Yaml.Directive

/-!
# YAML tokens

A YAML text is a list of tokens. Indentation is told by tokens of its own: a block
collection begins with a token and ends with one.
-/

namespace PredictionMarket.Yaml

/-- How a scalar is written, as far as what it denotes depends on it. -/
inductive Spelling where
  | plain
  /-- As a block whose line breaks are kept. -/
  | literal
  /-- Between quotes, or as a block whose line breaks are folded. -/
  | other
deriving DecidableEq

/-- A unit of a YAML text. -/
inductive Token where
  | directive (stated : Directive)
  | documentStart
  | documentEnd
  | blockSequenceStart
  | blockMappingStart
  | blockEnd
  | flowSequenceStart
  | flowSequenceEnd
  | flowMappingStart
  | flowMappingEnd
  /-- The dash before an element of a block sequence. -/
  | entry
  /-- The comma behind an entry in flow style. -/
  | comma
  /-- The key of a member follows. -/
  | key
  /-- The value of a member follows. -/
  | value
  | reference (name : List Char)
  | anchor (name : List Char)
  | tag (tag : Tag.Spelled)
  | scalar (text : List Char) (spelling : Spelling)
deriving DecidableEq

namespace Token

/-- Whether the next token divides or ends what is inside a block collection, so that the
node expected before it is left out. -/
def endsBlockNode : List Token → Bool
  | key :: _ | value :: _ | blockEnd :: _ => true
  | _ => false

/-- Whether the next token divides or ends the collection in flow style that `close` ends. -/
def endsFlowNode (close : Token) : List Token → Bool
  | token :: _ => token = comma ∨ token = close
  | [] => false

/-- Whether the next token belongs to the frame of documents. -/
def endsDocument : List Token → Bool
  | [] | directive _ :: _ | documentStart :: _ | documentEnd :: _ => true
  | _ => false

end Token

end PredictionMarket.Yaml
