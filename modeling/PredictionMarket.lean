import PredictionMarket.Attestation
import PredictionMarket.Binding
import PredictionMarket.Calendar.Date
import PredictionMarket.Calendar.Display
import PredictionMarket.Calendar.Instant
import PredictionMarket.Calendar.Layout
import PredictionMarket.Catalog
import PredictionMarket.Catalog.Builtin
import PredictionMarket.Catalog.Codec
import PredictionMarket.CommandLine.Invocation
import PredictionMarket.CommandLine.Option
import PredictionMarket.CommandLine.Run
import PredictionMarket.CommandLine.Usage
import PredictionMarket.Datum
import PredictionMarket.Decimal.Digits
import PredictionMarket.Decimal.Double
import PredictionMarket.Decimal.Grouped
import PredictionMarket.Decimal.Literal
import PredictionMarket.Decimal.Numeral
import PredictionMarket.Decimal.Rounding
import PredictionMarket.Decimal.Scaling
import PredictionMarket.Decimal.Shortest
import PredictionMarket.Deployment
import PredictionMarket.Dict
import PredictionMarket.Environment
import PredictionMarket.Failure
import PredictionMarket.Files
import PredictionMarket.Json.Basic
import PredictionMarket.Json.Numeral
import PredictionMarket.Json.Parser
import PredictionMarket.Json.Plain
import PredictionMarket.Json.Printer
import PredictionMarket.Json.Quoted
import PredictionMarket.Main
import PredictionMarket.Market
import PredictionMarket.PatternEngine
import PredictionMarket.Placeholder
import PredictionMarket.Query
import PredictionMarket.Rendering
import PredictionMarket.Settings.Basic
import PredictionMarket.Settings.Codec
import PredictionMarket.Settings.Discovery
import PredictionMarket.Template.Basic
import PredictionMarket.Template.Check
import PredictionMarket.Template.Codec
import PredictionMarket.Template.Display
import PredictionMarket.Template.Fields
import PredictionMarket.Text.Blank
import PredictionMarket.Text.Word
import PredictionMarket.VariableSources
import PredictionMarket.Yaml.Character
import PredictionMarket.Yaml.Cursor
import PredictionMarket.Yaml.Directive
import PredictionMarket.Yaml.Grammar
import PredictionMarket.Yaml.Lexer
import PredictionMarket.Yaml.Mark
import PredictionMarket.Yaml.Node
import PredictionMarket.Yaml.Plain
import PredictionMarket.Yaml.Printer
import PredictionMarket.Yaml.Scalar
import PredictionMarket.Yaml.Tag
import PredictionMarket.Yaml.Token
import PredictionMarket.Yaml.Value
import PredictionMarket.Proofs.Binding.Agreement
import PredictionMarket.Proofs.Binding.Documented
import PredictionMarket.Proofs.Binding.PlainValues
import PredictionMarket.Proofs.Binding.SelectDefaults
import PredictionMarket.Proofs.Binding.Thresholds
import PredictionMarket.Proofs.Binding.TimeTokens
import PredictionMarket.Proofs.Binding.Tokens
import PredictionMarket.Proofs.Calendar.Accepted
import PredictionMarket.Proofs.Calendar.Agreement
import PredictionMarket.Proofs.Calendar.Counted
import PredictionMarket.Proofs.Calendar.Date
import PredictionMarket.Proofs.Calendar.Documented
import PredictionMarket.Proofs.Calendar.Grammar
import PredictionMarket.Proofs.Calendar.Moment
import PredictionMarket.Proofs.Calendar.ReadBack
import PredictionMarket.Proofs.Calendar.Regular
import PredictionMarket.Proofs.Calendar.Shown
import PredictionMarket.Proofs.Calendar.Spelling
import PredictionMarket.Proofs.Catalog.Bodies
import PredictionMarket.Proofs.Catalog.Construction
import PredictionMarket.Proofs.Catalog.Lookup
import PredictionMarket.Proofs.CommandLine.Generate
import PredictionMarket.Proofs.Decimal.Digits
import PredictionMarket.Proofs.Decimal.Exact
import PredictionMarket.Proofs.Decimal.Grouping
import PredictionMarket.Proofs.Decimal.Integral
import PredictionMarket.Proofs.Decimal.Literal
import PredictionMarket.Proofs.Decimal.Nearest
import PredictionMarket.Proofs.Decimal.PlainText
import PredictionMarket.Proofs.Decimal.ReadBack
import PredictionMarket.Proofs.Decimal.Shortest
import PredictionMarket.Proofs.Dictionary
import PredictionMarket.Proofs.Failure
import PredictionMarket.Proofs.Generation.Authoring
import PredictionMarket.Proofs.Generation.Completeness
import PredictionMarket.Proofs.Generation.Mirror
import PredictionMarket.Proofs.Generation.Printed
import PredictionMarket.Proofs.Generation.ProxyRouting
import PredictionMarket.Proofs.Generation.Relevance
import PredictionMarket.Proofs.Generation.Residue
import PredictionMarket.Proofs.Generation.RoundTrip
import PredictionMarket.Proofs.Generation.StrictMode
import PredictionMarket.Proofs.Generation.Traversal
import PredictionMarket.Proofs.Generation.WholeSeconds
import PredictionMarket.Proofs.Json.Amount
import PredictionMarket.Proofs.Json.Numerals
import PredictionMarket.Proofs.Json.Printing
import PredictionMarket.Proofs.Json.Quoted
import PredictionMarket.Proofs.Json.Spelling
import PredictionMarket.Proofs.Rendering.Cut
import PredictionMarket.Proofs.Rendering.Fields
import PredictionMarket.Proofs.Rendering.Placeholder
import PredictionMarket.Proofs.Rendering.Replacement
import PredictionMarket.Proofs.Settings.Reachable
import PredictionMarket.Proofs.Settings.RoundTrip
import PredictionMarket.Proofs.Template.Arrangement
import PredictionMarket.Proofs.Template.Layout
import PredictionMarket.Proofs.Template.Origin
import PredictionMarket.Proofs.Template.OutcomeLiterals
import PredictionMarket.Proofs.Template.RoundTrip
import PredictionMarket.Proofs.Text.Trimming
import PredictionMarket.Proofs.Text.Word
import PredictionMarket.Proofs.Yaml.Lexing
import PredictionMarket.Proofs.Yaml.Nesting
import PredictionMarket.Proofs.Yaml.Nodes
import PredictionMarket.Proofs.Yaml.Records
import PredictionMarket.Proofs.Yaml.Scalars
import PredictionMarket.Proofs.Yaml.Styles
import PredictionMarket.Proofs.Rendering.Exactness
import PredictionMarket.Proofs.Rendering.Independence
import PredictionMarket.Proofs.Decimal.Canonical
import PredictionMarket.Proofs.Json.Notation
import PredictionMarket.Proofs.CommandLine.Assignments
import PredictionMarket.Proofs.Decimal.Order
import PredictionMarket.Proofs.Decimal.Truncation
import PredictionMarket.Proofs.Calendar.Milliseconds
import PredictionMarket.Proofs.Json.PlainDecimal
import PredictionMarket.Proofs.Generation.ResultShapes
import PredictionMarket.Proofs.Rendering.Occurrences
import PredictionMarket.Proofs.Template.SourceIssues
import PredictionMarket.Proofs.CommandLine.Precedence
import PredictionMarket.Proofs.Template.Tables
