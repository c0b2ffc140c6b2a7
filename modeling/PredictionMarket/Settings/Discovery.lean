import PredictionMarket.Catalog.Builtin
import PredictionMarket.Catalog.Codec
import PredictionMarket.Settings.Codec

/-!
# Where settings come from

Settings come from the file that is named, else from the standard file if it is there,
else they are the standard ones. The environment variable then selects the environment.
The catalog of a deployment is the built-in one, followed by the templates of the file
that the settings name.
-/

namespace PredictionMarket.Settings

/-- The file that holds settings unless another one is named. -/
def standardFile : String := "marketgen.yaml"

/-- The environment variable that selects the environment. -/
def variableName : String := "MARKETGEN_ENV"

/-- Settings from what a path leads to. -/
def ofFile (path : String) (content : FileContent) : Except Failure Settings :=
  match content.text? with
  | some text => ofYaml text
  | none => .error (.settings (.unreadable path))

/-- Reads the settings file at a path. -/
def load (files : Files) (path : String) : Except Failure Settings := ofFile path (files path)

/-- The settings of the named file or the standard file, before any selection. -/
def located (files : Files) (named : Option String) : Except Failure Settings :=
  match named, files standardFile with
  | some path, _ => load files path
  | none, .absent => .ok standard
  | none, content => ofFile standardFile content

/-- The settings of a deployment, given the named settings file and the value of the
environment variable. -/
def discover (files : Files) (named selected : Option String) : Except Failure Settings :=
  (located files named).bind fun settings =>
    let (settings, failure?) := settings.inEnvironment selected
    Failure.settle failure? settings

/-- The catalog of a deployment. -/
def catalog (files : Files) (settings : Settings) : Except Failure Catalog :=
  match settings.catalogPath with
  | none => .ok Catalog.builtin
  | some path => (Catalog.load files path).bind Catalog.builtin.merged

end PredictionMarket.Settings
