import PredictionMarket.Binding
import PredictionMarket.Catalog
import PredictionMarket.Placeholder
import PredictionMarket.Template.Fields
import PredictionMarket.Text.Word

/-!
# Checking templates

Faults of a template that show without any variables: defaults that make no sense, select
variables whose default is no option, placeholders that nothing can fill, and data sources
whose results do not fit the declared outcomes. A template without issues is consistent.
-/

namespace PredictionMarket

open Text (isBlank isNumeral isWord)

/-- What the check finds fault with. -/
inductive Issue where
  | noOutcomes
  | repeatedDisplayOrder (order : UInt32)
  | consensusOutOfRange (percent : UInt8)
  | marketCapTooHigh (percent : UInt8)
  | noOptions (variableName : String)
  | fallbackNoOption (fallback variableName : String)
  | unknownPlaceholder (field name : String)
  | noSources
  | shapeNotOutcomeIndex (position : Nat)
  | outcomeOutOfRange (position index outcomes : Nat)
deriving DecidableEq

/-- The wording of an issue. -/
def Issue.message : Issue → String
  | noOutcomes => "declares no outcomes"
  | repeatedDisplayOrder order =>
    s!"display order {order.toNat} is used by more than one outcome"
  | consensusOutOfRange percent => s!"consensus threshold {percent.toNat}% is outside 1..=100"
  | marketCapTooHigh percent => s!"market cap {percent.toNat}% exceeds 100"
  | noOptions variableName => s!"select variable '{variableName}' has no options"
  | fallbackNoOption fallback variableName =>
    s!"default '{fallback}' of select variable '{variableName}' is not one of its options"
  | unknownPlaceholder field name =>
    s!"{field} references unknown placeholder '" ++
      String.ofList (Placeholder.token name.toList) ++ "'"
  | noSources => "declares no data sources"
  | shapeNotOutcomeIndex position =>
    s!"dataSources[{position}] result shape is not a single unsigned outcomeIdx field"
  | outcomeOutOfRange position index outcomes =>
    s!"dataSources[{position}] extraction rule can emit outcome index {index} but only " ++
      s!"{outcomes} outcomes are declared"

namespace OutcomeLiteral

/-- Whether a word begins or ends between two neighbours, of which either may be the end
of the text. -/
def isBoundary (before after : Option Char) : Bool :=
  (before.map isWord).getD false != (after.map isWord).getD false

/-- The text behind a keyword that announces an outcome index: `then` or `else` at the
beginning of a word, or `outcomeIdx:` anywhere. -/
def afterKeyword? (before : Option Char) (text : List Char) : Option (List Char) :=
  let wordStart := isBoundary before text.head?
  if wordStart && "then".toList.isPrefixOf text then some (text.drop 4)
  else if wordStart && "else".toList.isPrefixOf text then some (text.drop 4)
  else if "outcomeIdx:".toList.isPrefixOf text then some (text.drop 11)
  else none

/-- The digits of the outcome literal with which a text begins: a keyword, any blanks,
and digits up to the end of a word. -/
def at? (before : Option Char) (text : List Char) : Option (List Char) :=
  match afterKeyword? before text with
  | none => none
  | some rest =>
    let rest := rest.dropWhile isBlank
    let shown := rest.takeWhile isNumeral
    let after := (rest.drop shown.length).head?
    if shown ≠ [] ∧ isBoundary shown.getLast? after then some shown else none

/-- The outcome index that digits denote. Digits beyond ASCII denote none, and no index
is wider than a machine word. -/
def index? (shown : List Char) : Option Nat :=
  if shown.all Char.isDigit && Decimal.valueOf shown < Nat.pow 2 64 then some (Decimal.valueOf shown)
  else none

/-- The outcome indices that a rule mentions behind a character, in order of appearance. -/
def indicesFrom (before : Option Char) : List Char → List Nat
  | [] => []
  | c :: rest =>
    let later := indicesFrom (some c) rest
    match (at? before (c :: rest)).bind index? with
    | some index => index :: later
    | none => later

/-- The outcome indices that an extraction rule mentions, in order of appearance. -/
def indices (rule : String) : List Nat := indicesFrom none rule.toList

end OutcomeLiteral

namespace MarketDefaults

/-- The display orders that repeat an earlier one, in order of appearance. -/
def repeatedOrders (seen : List UInt32) : List UInt32 → List UInt32
  | [] => []
  | order :: rest =>
    if order ∈ seen then order :: repeatedOrders seen rest
    else repeatedOrders (order :: seen) rest

/-- The issues of market defaults. -/
def issues (defaults : MarketDefaults) : List Issue :=
  (if defaults.outcomes.isEmpty then [.noOutcomes] else []) ++
    (repeatedOrders [] (defaults.outcomes.map Outcome.displayOrder)).map
      .repeatedDisplayOrder ++
    (if defaults.consensusThreshold = 0 ∨ 100 < defaults.consensusThreshold then
      [.consensusOutOfRange defaults.consensusThreshold] else []) ++
    (if 100 < defaults.marketCap then [.marketCapTooHigh defaults.marketCap] else [])

end MarketDefaults

/-- The issues of a declared variable. Only select variables can have any. -/
def Variable.issues (name : String) (schema : Variable) : List Issue :=
  if schema.kind ≠ .select then []
  else if schema.options.isEmpty then [.noOptions name]
  else
    match schema.fallback.bind Json.string? with
    | some fallback =>
      if schema.options.any fun option => option.value == fallback then []
      else [.fallbackNoOption fallback name]
    | none => []

/-- The issues of the data source at a position. -/
def DataSource.issues (source : DataSource) (outcomes position : Nat) : List Issue :=
  (if source.shape.isOutcomeIndex then [] else [.shapeNotOutcomeIndex position]) ++
    (OutcomeLiteral.indices source.rule).filterMap fun index =>
      if outcomes ≤ index then some (.outcomeOutOfRange position index outcomes) else none

namespace Template

/-- Whether a placeholder can be filled: its name is declared or computed. -/
def knows (template : Template) (name : String) : Bool :=
  template.schema.contains name || Token.computed.contains name

/-- The issues of the declared variables. -/
def variableIssues (template : Template) : List Issue :=
  template.schema.entries.flatMap fun entry => entry.2.issues entry.1

/-- The issues of the placeholders of every field. -/
def placeholderIssues (template : Template) : List Issue :=
  template.fields.flatMap fun field =>
    ((Placeholder.namesOf field.2).filter fun name => !template.knows name).map
      (Issue.unknownPlaceholder field.1)

/-- The issues of the data sources. -/
def sourceIssues (template : Template) : List Issue :=
  (if template.sources.isEmpty then [.noSources] else []) ++
    template.sources.zipIdx.flatMap fun source =>
      source.1.issues template.defaults.outcomes.length source.2

/-- All issues of a template. -/
def issues (template : Template) : List Issue :=
  template.defaults.issues ++ template.variableIssues ++ template.placeholderIssues ++
    template.sourceIssues

end Template

/-- An issue and the identifier of the template that has it. -/
structure Finding where
  templateId : String
  issue : Issue
deriving DecidableEq

/-- The line in which a finding is shown. -/
def Finding.text (finding : Finding) : String :=
  finding.templateId ++ ": " ++ finding.issue.message

/-- The findings about one template. -/
def Template.findings (template : Template) : List Finding :=
  template.issues.map (Finding.mk template.id)

/-- The findings about all templates, in their order. -/
def Catalog.findings (catalog : Catalog) : List Finding :=
  catalog.templates.flatMap Template.findings

end PredictionMarket
