import PredictionMarket.Json.Numeral
import PredictionMarket.Json.Quoted

/-!
# Reading JSON

One pass over the characters of a text. A numeral that would be infinite, a container
inside 127 others and a lone surrogate are refused.
-/

namespace PredictionMarket.Json

/-- Whether JSON allows a character between two tokens. -/
def isSpace (c : Char) : Bool := c == ' ' || c == '\t' || c == '\n' || c == '\r'

/-- A text from its first character that is not space. -/
def skipSpace (text : List Char) : List Char := text.dropWhile isSpace

/-- How many containers may stand inside one another. -/
def mostNested : Nat := 127

mutual

/-- Reads a value at the start of a text. `room` counts the containers that may still be
opened, and `bound` the readings that may still be started. -/
def value? (bound room : Nat) (text : List Char) : Option (Json × List Char) :=
  match bound with
  | 0 => none
  | bound + 1 =>
    match skipSpace text with
    | 'n' :: 'u' :: 'l' :: 'l' :: rest => some (null, rest)
    | 't' :: 'r' :: 'u' :: 'e' :: rest => some (bool true, rest)
    | 'f' :: 'a' :: 'l' :: 's' :: 'e' :: rest => some (bool false, rest)
    | '"' :: rest =>
      (unquoted? rest).map fun (content, rest) => (string (String.ofList content), rest)
    | '[' :: rest =>
      match room with
      | 0 => none
      | room + 1 =>
        match skipSpace rest with
        | ']' :: rest => some (array [], rest)
        | rest => (elements? bound room rest).map fun (elements, rest) => (array elements, rest)
    | '\x7b' :: rest =>
      match room with
      | 0 => none
      | room + 1 =>
        match skipSpace rest with
        | '\x7d' :: rest => some (object [], rest)
        | rest => (members? bound room rest).map fun (members, rest) => (ofMembers members, rest)
    | rest => (number? rest).map fun (value, rest) => (number value, rest)

/-- Reads elements that commas divide, up to and with the closing bracket. -/
def elements? (bound room : Nat) (text : List Char) : Option (List Json × List Char) :=
  match bound with
  | 0 => none
  | bound + 1 =>
    match value? bound room text with
    | none => none
    | some (element, rest) =>
      match skipSpace rest with
      | ']' :: rest => some ([element], rest)
      | ',' :: rest =>
        (elements? bound room rest).map fun (elements, rest) => (element :: elements, rest)
      | _ => none

/-- Reads members that commas divide, up to and with the closing brace. -/
def members? (bound room : Nat) (text : List Char) :
    Option (List (String × Json) × List Char) :=
  match bound with
  | 0 => none
  | bound + 1 =>
    match skipSpace text with
    | '"' :: rest =>
      match unquoted? rest with
      | none => none
      | some (name, rest) =>
        match skipSpace rest with
        | ':' :: rest =>
          match value? bound room rest with
          | none => none
          | some (element, rest) =>
            let member := (String.ofList name, element)
            match skipSpace rest with
            | '\x7d' :: rest => some ([member], rest)
            | ',' :: rest =>
              (members? bound room rest).map fun (members, rest) => (member :: members, rest)
            | _ => none
        | _ => none
    | _ => none

end

/-- The value that a whole text denotes. -/
def ofText? (text : String) : Option Json :=
  let chars := text.toList
  match value? (2 * chars.length + 2) mostNested chars with
  | some (value, rest) => if (skipSpace rest).isEmpty then some value else none
  | none => none

end PredictionMarket.Json
