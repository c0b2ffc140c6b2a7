import PredictionMarket.Decimal.Numeral
import PredictionMarket.Json.Basic
import PredictionMarket.Json.Quoted

/-!
# JSON text

The compact text of a value has no blanks. The indented text puts every element and
member on a line of its own, two blanks deeper than its container; empty containers
stay closed.
-/

namespace PredictionMarket

open Decimal (NumeralStyle intText)

namespace Json

/-- Numbers that are not integers are positional from `0.00001` up to below `1e16`,
always with a fraction. -/
def numeral : NumeralStyle where
  tie := .toEven
  positional := some (-5, 16)
  pointed := true

end Json

/-- The JSON text of a number. -/
def Number.text : Number → List Char
  | .integer value => intText value.toInt
  | .double value => Json.numeral.text value

namespace Json

/-- The characters of a value that is no container. -/
def literalText (value : Bool) : List Char :=
  if value then ['t', 'r', 'u', 'e'] else ['f', 'a', 'l', 's', 'e']

mutual

/-- The compact text of a value. -/
def compact : Json → List Char
  | null => ['n', 'u', 'l', 'l']
  | bool value => literalText value
  | number value => value.text
  | string value => quoted value
  | array elements => '[' :: compactElements elements
  | object members => '\x7b' :: compactMembers members

/-- The compact text of the elements of an array, with the closing bracket. -/
def compactElements : List Json → List Char
  | [] => [']']
  | [last] => compact last ++ [']']
  | element :: rest => compact element ++ ',' :: compactElements rest

/-- The compact text of the members of an object, with the closing brace. -/
def compactMembers : List (String × Json) → List Char
  | [] => ['\x7d']
  | [(name, last)] => quoted name ++ ':' :: (compact last ++ ['\x7d'])
  | (name, value) :: rest => quoted name ++ ':' :: (compact value ++ ',' :: compactMembers rest)

end

/-- A line break and the blanks that open a line of the given depth. -/
def lineStart (depth : Nat) : List Char := '\n' :: List.replicate (2 * depth) ' '

mutual

/-- The indented text of a value that stands in a line of the given depth. -/
def indentedAt (depth : Nat) : Json → List Char
  | null => ['n', 'u', 'l', 'l']
  | bool value => literalText value
  | number value => value.text
  | string value => quoted value
  | array [] => ['[', ']']
  | array (element :: rest) =>
    '[' :: (lineStart (depth + 1) ++ indentedElements depth (element :: rest))
  | object [] => ['\x7b', '\x7d']
  | object (member :: rest) =>
    '\x7b' :: (lineStart (depth + 1) ++ indentedMembers depth (member :: rest))

/-- The indented text of the elements of an array of the given depth, with the closing
bracket. -/
def indentedElements (depth : Nat) : List Json → List Char
  | [] => lineStart depth ++ [']']
  | [last] => indentedAt (depth + 1) last ++ lineStart depth ++ [']']
  | element :: rest =>
    indentedAt (depth + 1) element ++ ',' :: lineStart (depth + 1) ++
      indentedElements depth rest

/-- The indented text of the members of an object of the given depth, with the closing
brace. -/
def indentedMembers (depth : Nat) : List (String × Json) → List Char
  | [] => lineStart depth ++ ['\x7d']
  | [(name, last)] =>
    quoted name ++ ':' :: ' ' :: indentedAt (depth + 1) last ++ lineStart depth ++ ['\x7d']
  | (name, value) :: rest =>
    quoted name ++ ':' :: ' ' :: indentedAt (depth + 1) value ++ ',' :: lineStart (depth + 1) ++
      indentedMembers depth rest

end

/-- The compact text of a value. -/
def toCompactText (value : Json) : String := String.ofList value.compact

/-- The indented text of a value. -/
def toIndentedText (value : Json) : String := String.ofList (value.indentedAt 0)

end Json

end PredictionMarket
