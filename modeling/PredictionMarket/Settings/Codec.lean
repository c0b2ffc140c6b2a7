import PredictionMarket.Settings.Basic
import PredictionMarket.Yaml.Printer
import PredictionMarket.Yaml.Value

/-!
# Settings as records

How settings are written and read. Fields that are left out have their standard value,
unknown fields are passed over, and a blank text holds the standard settings. Settings
that are read from a text are valid.
-/

namespace PredictionMarket

open Datum

variable {ν : Type} {μ : Type → Type} [Monad μ] [Datum ν μ]

/-- Reads the name of an environment. -/
def Environment.read (value : ν) : μ Environment := oneOf name all value

namespace Proxies

/-- Proxies as a record. -/
def toJson (proxies : Proxies) : Json :=
  .object (Environment.all.map fun environment =>
    (environment.name, .string (proxies.of environment)))

/-- Reads proxies. -/
def read (value : ν) : μ Proxies := do
  let members ← record ["development", "staging", "production"] value
  return {
    development := ← defaultedField text standard.development members "development"
    staging := ← defaultedField text standard.staging members "staging"
    production := ← defaultedField text standard.production members "production" }

/-- Proxies as they are written. -/
def toEntry (proxies : Proxies) : Yaml.Entry :=
  .record (Environment.all.map fun environment =>
    (environment.name, .text (proxies.of environment)))

end Proxies

namespace Settings

/-- Settings as a record. -/
def toJson (settings : Settings) : Json :=
  let catalogPath :=
    match settings.catalogPath with
    | some path => [("catalog_path", Json.string path)]
    | none => []
  .object ([
    ("environment", .string settings.environment.name),
    ("strict_placeholders", .bool settings.strict),
    ("proxy_prefixes", settings.proxies.toJson)] ++ catalogPath)

/-- Reads settings. -/
def read (value : ν) : μ Settings := do
  let members ← record ["environment", "strict_placeholders", "proxy_prefixes",
    "catalog_path"] value
  return {
    environment := ←
      defaultedField Environment.read standard.environment members "environment"
    strict := ← defaultedField truth standard.strict members "strict_placeholders"
    proxies := ← defaultedField Proxies.read standard.proxies members "proxy_prefixes"
    catalogPath := ← optionalField text members "catalog_path" }

/-- The fields of settings as they are written. -/
def entries (settings : Settings) : List (String × Yaml.Entry) :=
  let catalogPath :=
    match settings.catalogPath with
    | some path => [("catalog_path", Yaml.Entry.text path)]
    | none => []
  [("environment", .text settings.environment.name),
    ("strict_placeholders", .truth settings.strict),
    ("proxy_prefixes", settings.proxies.toEntry)] ++ catalogPath

/-- The YAML text of settings. -/
def toYaml (settings : Settings) : String := String.ofList (Yaml.fieldsText 0 settings.entries)

/-- Reads settings from a YAML text. -/
def ofYaml (text : String) : Except Failure Settings :=
  if (Text.trim text.toList).isEmpty then .ok standard
  else
    match Yaml.ofText? read text with
    | some settings => settings.validated
    | none => .error (.settings .malformed)

end Settings

end PredictionMarket
