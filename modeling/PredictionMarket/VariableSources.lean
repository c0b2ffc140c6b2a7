import PredictionMarket.Binding
import PredictionMarket.Failure
import PredictionMarket.Files
import PredictionMarket.Json.Parser

/-!
# Sources of variables

The variables of a generation come from a file and from an argument, each a JSON object,
and from assignments `KEY=VALUE`. A later source replaces what an earlier one gave. The
value of an assignment is a number or a truth value if it is written exactly as JSON
writes that value, and else a text.
-/

namespace PredictionMarket

/-- The parts of a text before and behind its first equals sign. -/
def splitAssignment? : List Char → Option (List Char × List Char)
  | [] => none
  | c :: rest =>
    if c = '=' then some ([], rest)
    else (splitAssignment? rest).map fun parts => (c :: parts.1, parts.2)

/-- The value that the text of an assignment gives. -/
def assignedValue (text : String) : Json :=
  match Json.ofText? text with
  | some (.number value) =>
    if (Json.number value).toCompactText = text then .number value else .string text
  | some (.bool value) =>
    if (Json.bool value).toCompactText = text then .bool value else .string text
  | _ => .string text

/-- Reads an assignment; blanks around the key do not belong to it. -/
def readAssignment (assignment : String) : Except Failure (String × Json) :=
  match splitAssignment? assignment.toList with
  | none => .error (.invalidVariables (.unassigned assignment))
  | some (key, value) =>
    let key := Text.trim key
    if key.isEmpty then .error (.invalidVariables (.unnamed assignment))
    else .ok (String.ofList key, assignedValue (String.ofList value))

/-- Reads variables from the JSON text of an object. -/
def readVariables (source : VariableSource) (text : String) : Except Failure Variables :=
  match Json.ofText? text with
  | some (.object members) => .ok (Dict.ofList members)
  | some value => .error (.invalidVariables (.notAnObject source value))
  | none => .error (.invalidVariables (.notJson source))

/-- Where the variables of a generation come from. -/
structure VariableSources where
  /-- The path of a file that holds a JSON object. -/
  file : Option String
  /-- The JSON text of an object. -/
  json : Option String
  assignments : List String

namespace VariableSources

/-- The variables of the file. -/
def fromFile (files : Files) (sources : VariableSources) : Except Failure Variables :=
  match sources.file with
  | none => .ok Dict.empty
  | some path =>
    match (files path).text? with
    | some text => readVariables .file text
    | none => .error (.invalidVariables (.unreadable path))

/-- The variables of the argument. -/
def fromJson (sources : VariableSources) : Except Failure Variables :=
  match sources.json with
  | none => .ok Dict.empty
  | some text => readVariables .argument text

/-- Adds assignments to variables, from left to right. -/
def assign (values : Variables) : List String → Except Failure Variables
  | [] => .ok values
  | assignment :: rest =>
    match readAssignment assignment with
    | .ok (key, value) => assign (values.insert key value) rest
    | .error failure => .error failure

/-- All variables. The first source with a fault decides the failure. -/
def collect (files : Files) (sources : VariableSources) : Except Failure Variables := do
  let fromFile ← sources.fromFile files
  let fromJson ← sources.fromJson
  assign (fromFile.overlay fromJson) sources.assignments

end VariableSources

end PredictionMarket
