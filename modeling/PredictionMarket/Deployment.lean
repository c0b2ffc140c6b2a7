import PredictionMarket.Settings.Discovery
import PredictionMarket.VariableSources

/-!
# Deployments

A deployment is what every command works on: settings and the catalog that belongs to
them.
-/

namespace PredictionMarket

/-- Settings and the catalog that belongs to them. -/
structure Deployment where
  settings : Settings
  catalog : Catalog

namespace Deployment

/-- Loads a deployment from the settings file that is named, if one is. The environment of
the arguments prevails over that of the environment variable, which prevails over that of
the file. -/
def load (files : Files) (named selected environment : Option String) :
    Except Failure Deployment := do
  let settings ← Settings.discover files named selected
  let (settings, failure?) := settings.inEnvironment environment
  let settings ← Failure.settle failure? settings
  let catalog ← settings.catalog files
  return { settings, catalog }

/-- How markets are generated: strictly if the settings or the caller say so. -/
def generation (deployment : Deployment) (strict : Bool) : GenerationOptions :=
  { deployment.settings.generation with strict := deployment.settings.strict || strict }

/-- Generates a market from the template with the given identifier. -/
def generate (engine : PatternEngine) (files : Files) (deployment : Deployment) (id : String)
    (sources : VariableSources) (strict : Bool) : Except Failure Market := do
  let values ← sources.collect files
  Market.generate engine deployment.catalog (deployment.generation strict) id values

end Deployment

end PredictionMarket
