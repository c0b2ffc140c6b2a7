import PredictionMarket.Json.Basic

/-!
# Market templates

A template is a prediction market with open places: prose with placeholders, a schema of
the variables that fill them, and data sources that decide the outcome. Templates are
plain data; nothing here depends on the values of variables.
-/

namespace PredictionMarket

/-- What a variable holds. -/
inductive VariableKind where
  /-- Short text, such as the name of a team. -/
  | text
  /-- A number. -/
  | number
  /-- An instant. -/
  | datetime
  /-- One value out of the options of the variable. -/
  | select
  /-- The identifier of something kept elsewhere, such as a match. -/
  | entity
deriving DecidableEq

/-- A value that a select variable may take, with the label under which it is offered. -/
structure SelectOption where
  value : String
  label : String
deriving DecidableEq

/-- The schema of one variable. -/
structure Variable where
  kind : VariableKind
  required : Bool
  label : Option String
  /-- The value of the variable when none is given. -/
  fallback : Option Json
  /-- The most places with which a number is shown. -/
  decimals : Option UInt32
  options : List SelectOption
  /-- What kind of thing an entity variable identifies. -/
  entity : Option String

/-- The variables of a template by name. -/
abbrev Schema := Dict Variable

/-- The method of a request. -/
inductive Method where
  | get
  | post
deriving DecidableEq

/-- One field of a result. -/
structure ResultField where
  internalType : String
  name : String
  type : String
deriving DecidableEq

/-- The shape of the result of an extraction rule. -/
structure ResultShape where
  fields : List ResultField
  name : String
  type : String
deriving DecidableEq

/-- An external source of truth and the rule that reduces its response to an outcome. -/
structure DataSource where
  name : String
  method : Method
  endpoint : String
  /-- Query parameters by name; placeholders stand in their values. -/
  query : Option (Dict String)
  headers : Option (Dict String)
  body : Option Json
  /-- The expression that yields the outcome index. -/
  rule : String
  shape : ResultShape

/-- An outcome and its place in displays. -/
structure Outcome where
  name : String
  displayOrder : UInt32
deriving DecidableEq

/-- The parameters that every market of a template has. -/
structure MarketDefaults where
  /-- The outcomes; the index of an outcome is its position. -/
  outcomes : List Outcome
  /-- The percentage of data sources that must agree. -/
  consensusThreshold : UInt8
  collateralToken : String
  /-- The market cap in percent. -/
  marketCap : UInt8
deriving DecidableEq

/-- A prediction market with placeholders. -/
structure Template where
  id : String
  name : String
  description : String
  category : String
  image : String
  schema : Schema
  question : String
  resolution : String
  /-- The data sources in order of authority. -/
  sources : List DataSource
  defaults : MarketDefaults

/-- What of a template is shown to those who choose one. -/
structure Template.Summary where
  id : String
  name : String
  description : String
  category : String
  image : String
  schema : Schema

/-- The summary of a template. -/
def Template.summary (template : Template) : Template.Summary where
  id := template.id
  name := template.name
  description := template.description
  category := template.category
  image := template.image
  schema := template.schema

/-- Every kind of variable. -/
def VariableKind.all : List VariableKind := [text, number, datetime, select, entity]

/-- The name of a kind of variable. -/
def VariableKind.name : VariableKind → String
  | text => "text"
  | number => "number"
  | datetime => "datetime"
  | select => "select"
  | entity => "entity"

/-- Every method. -/
def Method.all : List Method := [get, post]

/-- The name of a method. -/
def Method.name : Method → String
  | get => "GET"
  | post => "POST"

namespace ResultShape

/-- The name of the one field that an extraction rule has to yield. -/
def outcomeField : String := "outcomeIdx"

/-- The shape of a single outcome index. -/
def outcomeIndex : ResultShape where
  fields := [{ internalType := "uint256", name := outcomeField, type := "uint256" }]
  name := "outcome"
  type := "tuple"

/-- Whether a shape is a tuple of one field `outcomeIdx` whose type is named like an
unsigned integer. -/
def isOutcomeIndex (shape : ResultShape) : Bool :=
  shape.type == "tuple" &&
    match shape.fields with
    | [field] => field.name == outcomeField && "uint".toList.isPrefixOf field.type.toList
    | _ => false

end ResultShape

end PredictionMarket
