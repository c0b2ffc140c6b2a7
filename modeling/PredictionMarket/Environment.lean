import PredictionMarket.Text.Blank

/-!
# Deployment environments

The environment in which markets are generated. It selects the proxy through which the
data sources are reached.
-/

namespace PredictionMarket

/-- A deployment environment. -/
inductive Environment where
  | development
  | staging
  | production
deriving DecidableEq

namespace Environment

/-- Every environment, in the order in which settings list them. -/
def all : List Environment := [development, staging, production]

/-- The name of an environment. -/
def name : Environment → String
  | development => "development"
  | staging => "staging"
  | production => "production"

/-- The environment that a text names in full or in short, in any case of ASCII letters
and between any blanks. -/
def ofText? (text : String) : Option Environment :=
  match String.ofList ((Text.trim text.toList).map Char.toLower) with
  | "development" | "dev" | "local" => some development
  | "staging" | "stage" => some staging
  | "production" | "prod" => some production
  | _ => none

/-- Every environment is the first of all that bears its name. -/
theorem find?_name (environment : Environment) :
    all.find? (fun candidate => candidate.name == environment.name) = some environment := by
  cases environment <;> decide

end Environment

end PredictionMarket
