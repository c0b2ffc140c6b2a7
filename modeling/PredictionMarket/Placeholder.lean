/-!
# Placeholders

A placeholder is a name between double braces: `{{name}}`. The name is not empty and
holds no brace. Placeholders never overlap, since a second pair of opening braces cannot
stand inside the first placeholder, so they are found by looking at every position.
-/

namespace PredictionMarket.Placeholder

/-- Whether a character is a brace. -/
def isBrace (c : Char) : Bool := c == '\x7b' || c == '\x7d'

/-- A name between double braces. -/
def token (name : List Char) : List Char :=
  '\x7b' :: '\x7b' :: (name ++ ['\x7d', '\x7d'])

/-- The name of the placeholder with which a text begins. -/
def nameAt? : List Char → Option (List Char)
  | '\x7b' :: '\x7b' :: rest =>
    let name := rest.takeWhile fun c => !isBrace c
    if name ≠ [] ∧ ['\x7d', '\x7d'] <+: rest.drop name.length then some name else none
  | _ => none

/-- The names of all placeholders of a text, in order of appearance. -/
def names : List Char → List (List Char)
  | [] => []
  | c :: rest =>
    match nameAt? (c :: rest) with
    | some name => name :: names rest
    | none => names rest

/-- The names of all placeholders of a text, in order of appearance. -/
def namesOf (text : String) : List String := (names text.toList).map String.ofList

end PredictionMarket.Placeholder
