import PredictionMarket.Template.Basic

/-!
# Fields with placeholders

The fields of a template in which placeholders may stand, with the labels under which
messages mention them: the two pieces of prose, and of every data source the endpoint,
the values of the query parameters and the extraction rule.
-/

namespace PredictionMarket

/-- The label of a part of the data source at a position. -/
def sourceLabel (position : Nat) (part : String) : String :=
  s!"dataSources[{position}]." ++ part

namespace DataSource

/-- The part of a label that stands for a query parameter. -/
def queryPart (name : String) : String := "queryParams." ++ name

/-- The query parameters of a data source; none are the same as an empty list. -/
def queryEntries (source : DataSource) : List (String × String) :=
  match source.query with
  | some query => query.entries
  | none => []

/-- The labelled fields of the data source at a position. -/
def fields (source : DataSource) (position : Nat) : List (String × String) :=
  (sourceLabel position "endpoint", source.endpoint) ::
    (source.queryEntries.map fun entry =>
      (sourceLabel position (queryPart entry.1), entry.2)) ++
    [(sourceLabel position "extractionRule", source.rule)]

end DataSource

namespace Template

/-- The label of the question. -/
def questionLabel : String := "question"

/-- The label of the resolution definition. -/
def resolutionLabel : String := "resolutionDefinition"

/-- The labelled fields of a template, in the order in which they are rendered. -/
def fields (template : Template) : List (String × String) :=
  (questionLabel, template.question) :: (resolutionLabel, template.resolution) ::
    template.sources.zipIdx.flatMap fun source => source.1.fields source.2

end Template

end PredictionMarket
