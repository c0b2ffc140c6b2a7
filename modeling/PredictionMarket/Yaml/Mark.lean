import PredictionMarket.Yaml.Cursor

/-!
# Names of nodes

An anchor names the node behind it, and an alias stands for the node of a name.
-/

namespace PredictionMarket.Yaml

/-- Whether the name of an anchor or alias ends here. -/
def endsName (rest : List Char) : Bool :=
  endsWord rest ||
    rest.head?.any fun c =>
      c == '?' || c == ':' || c == ',' || c == ']' || c == '\x7d' || c == '%' || c == '@' ||
        c == '\x60'

/-- Reads the name of an anchor or alias behind its sign. -/
def name? (cursor : Cursor) : Option (List Char × Cursor) :=
  let name := cursor.rest.takeWhile isNameCharacter
  let cursor := cursor.skip name.length
  if !name.isEmpty && endsName cursor.rest then some (name, cursor) else none

end PredictionMarket.Yaml
