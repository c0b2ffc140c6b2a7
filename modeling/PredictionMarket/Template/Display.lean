import PredictionMarket.Failure
import PredictionMarket.Template.Codec

/-!
# Templates as text

The tables in which templates are listed and one template is described. A column is as
wide as the number of bytes of its longest entry, and entries are filled up with spaces
to that number of characters. A width is a number of 16 bits, so a table in which a column
would have to be wider is not written.
-/

namespace PredictionMarket

/-- The number of bytes of the longest text. -/
def columnWidth (texts : List String) : Nat := (texts.map String.utf8ByteSize).foldl max 0

/-- The greatest width to which a text can be filled up. -/
def widestColumn : Nat := 65535

/-- The width of the column that holds some texts, which may be too great. -/
def columnOf (texts : List String) : Except Failure Nat :=
  let width := columnWidth texts
  if width ≤ widestColumn then .ok width else .error (.columnTooWide width)

/-- A text filled up with spaces to a number of characters. -/
def paddedTo (width : Nat) (text : String) : String :=
  text ++ String.ofList (List.replicate (width - text.length) ' ')

/-- What a variable holds and demands, in one line. -/
def Variable.descriptionLine (schema : Variable) : String :=
  let parts :=
    [schema.kind.name] ++
    (if schema.required then ["required"] else []) ++
    (schema.entity.map fun entity => "entity=" ++ entity).toList ++
    (schema.decimals.map fun places => "decimals=" ++ toString places.toNat).toList ++
    (if schema.options.isEmpty then []
      else ["options=" ++ "|".intercalate (schema.options.map SelectOption.value)]) ++
    (schema.fallback.map fun value => "default=" ++ value.toCompactText).toList
  let label :=
    match schema.label with
    | some label => "  (" ++ label ++ ")"
    | none => ""
  ", ".intercalate parts ++ label

namespace Template.Summary

/-- A line of the list of templates. -/
def listLine (idWidth categoryWidth : Nat) (summary : Summary) : String :=
  "  " ++ paddedTo idWidth summary.id ++ "  " ++ paddedTo categoryWidth summary.category ++ "  " ++
    summary.name ++ "\n"

/-- The list of templates. -/
def listText (summaries : List Summary) : Except Failure String :=
  if summaries.isEmpty then .ok "No templates.\n"
  else do
    let idWidth ← columnOf (summaries.map id)
    let categoryWidth ← columnOf (summaries.map category)
    return "Templates (" ++ toString summaries.length ++ "):\n\n" ++
      String.join (summaries.map (listLine idWidth categoryWidth))

/-- A line across the page. -/
def rule : String := String.ofList (List.replicate 80 '=') ++ "\n"

/-- A labelled line that is left out if there is nothing to say. -/
def labelledLine (label text : String) : String :=
  if text.isEmpty then "" else label ++ text ++ "\n"

/-- The line of a variable. -/
def variableLine (width : Nat) (entry : String × Variable) : String :=
  "  " ++ paddedTo width entry.1 ++ "  " ++ entry.2.descriptionLine ++ "\n"

/-- The table of variables. -/
def variablesText (summary : Summary) : Except Failure String :=
  if summary.schema.isEmpty then .ok ""
  else do
    let width ← columnOf summary.schema.keys
    return "\nVariables:\n" ++ String.join (summary.schema.entries.map (variableLine width))

/-- What is said about a template apart from its variables. -/
def headText (summary : Summary) : String :=
  rule ++ summary.id ++ " [" ++ summary.category ++ "]\n" ++ rule ++ "\n" ++
    "Name:         " ++ summary.name ++ "\n" ++
    labelledLine "Description:  " summary.description ++
    labelledLine "Image:        " summary.image

/-- The description of a template. -/
def descriptionText (summary : Summary) : Except Failure String :=
  return summary.headText ++ (← summary.variablesText)

end Template.Summary

end PredictionMarket
