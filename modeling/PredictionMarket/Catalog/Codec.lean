import PredictionMarket.Catalog
import PredictionMarket.Files
import PredictionMarket.Template.Codec
import PredictionMarket.Yaml.Value

/-!
# Catalog files

A catalog file is a YAML list of templates.
-/

namespace PredictionMarket.Catalog

/-- Reads a catalog from a YAML text. -/
def ofYaml (text : String) : Except Failure Catalog :=
  match Yaml.ofText? (Datum.list Template.read) text with
  | some templates => ofTemplates templates
  | none => .error (.catalog .malformed)

/-- Reads the catalog file at a path. -/
def load (files : Files) (path : String) : Except Failure Catalog :=
  match (files path).text? with
  | some text => ofYaml text
  | none => .error (.catalog (.unreadable path))

end PredictionMarket.Catalog
