import PredictionMarket.Environment
import PredictionMarket.Json.Printer

/-!
# Failures

Everything that can go wrong, by cause. The wording of a failure and its exit code are
functions of the cause. Where the system or a library has a say in the wording, what it says is
given apart.
-/

namespace PredictionMarket

/-- Why a value is no attestation time. -/
inductive AttestationFault where
  /-- There is no value, or it is `null`. -/
  | missing
  /-- The text is not written like an instant. -/
  | notAnInstant (text : String)
  /-- The number lies outside the calendar. -/
  | outsideCalendar (millis : Number)
  /-- The value is neither a text nor a number. -/
  | wrongKind (value : Json)

/-- Why there is no usable catalog. -/
inductive CatalogFault where
  | unreadable (path : String)
  | malformed
  | duplicateId (id : String)
  /-- The consistency check found issues. -/
  | inconsistent (issues templates : Nat)

/-- Why settings are not accepted. -/
inductive SettingsFault where
  | unreadable (path : String)
  | malformed
  | notHttp (environment : Environment) (proxy : String)
  | trailingSlash (environment : Environment) (proxy : String)
  | unknownEnvironment (text : String)

/-- Where the variables of a generation are given as one JSON object. -/
inductive VariableSource where
  | file
  | argument
deriving DecidableEq

/-- Why variables are not accepted. -/
inductive VariablesFault where
  | unreadable (path : String)
  | notJson (source : VariableSource)
  | notAnObject (source : VariableSource) (value : Json)
  /-- The assignment has no equals sign. -/
  | unassigned (assignment : String)
  /-- Nothing stands before the equals sign. -/
  | unnamed (assignment : String)

/-- Anything that can go wrong. -/
inductive Failure where
  | templateNotFound (id : String)
  | invalidAttestation (fault : AttestationFault)
  /-- A placeholder has no value; the token is given with its braces. -/
  | unresolvedPlaceholder (token field : String)
  | catalog (fault : CatalogFault)
  | settings (fault : SettingsFault)
  | invalidVariables (fault : VariablesFault)
  /-- The pattern that has the keys of a binding as alternatives is too large. -/
  | patternTooLarge
  /-- A number is to be written with more places than are possible. -/
  | tooManyPlaces (places : Nat)
  /-- A column of a table is wider than a text can be filled up to. -/
  | columnTooWide (width : Nat)

/-- The wording of an attestation fault. -/
def AttestationFault.message : AttestationFault → String
  | missing => "attestationTime is required"
  | notAnInstant text => s!"'{text}' is not a valid instant"
  | outsideCalendar millis =>
    String.ofList millis.text ++ " is not a valid epoch-milliseconds instant"
  | wrongKind value => "expected a string or number, got " ++ value.toCompactText

/-- The wording of a catalog fault. -/
def CatalogFault.message : CatalogFault → String
  | unreadable path => s!"failed to read catalog file '{path}'"
  | malformed => "failed to parse catalog YAML"
  | duplicateId id => s!"duplicate template id '{id}'"
  | inconsistent issues templates => s!"{issues} issue(s) found in {templates} templates"

/-- A text without the slashes at its end. -/
def withoutFinalSlashes (text : String) : String :=
  String.ofList (text.toList.reverse.dropWhile (· == '/')).reverse

/-- The wording of a settings fault. -/
def SettingsFault.message : SettingsFault → String
  | unreadable path => s!"failed to read config file '{path}'"
  | malformed => "failed to parse config YAML"
  | notHttp environment proxy =>
    "config validation failed: proxy_prefixes." ++ environment.name ++
      s!" must be an http(s) URL (found '{proxy}')"
  | trailingSlash environment proxy =>
    "config validation failed: proxy_prefixes." ++ environment.name ++
      " must not end with '/'. Use '" ++ withoutFinalSlashes proxy ++ "' instead."
  | unknownEnvironment text =>
    s!"invalid environment '{text}': expected development, staging or production"

/-- The command line option that names a source of variables. -/
def VariableSource.optionName : VariableSource → String
  | file => "--vars-file"
  | argument => "--vars-json"

/-- What kind of JSON value a value is, in words. -/
def Json.kindName : Json → String
  | null => "null"
  | bool _ => "a boolean"
  | number _ => "a number"
  | string _ => "a string"
  | array _ => "an array"
  | object _ => "an object"

/-- The wording of a variables fault. -/
def VariablesFault.message : VariablesFault → String
  | unreadable path => s!"failed to read variables file '{path}'"
  | notJson source => source.optionName ++ " is not valid JSON"
  | notAnObject source value =>
    source.optionName ++ " must contain a JSON object, found " ++ value.kindName
  | unassigned assignment => s!"invalid --var '{assignment}': expected KEY=VALUE"
  | unnamed assignment => s!"invalid --var '{assignment}': key is empty"

namespace Failure

/-- The wording of a failure, up to the cause that the system or a library gives for it. -/
def heading : Failure → String
  | templateNotFound id => s!"template '{id}' not found"
  | invalidAttestation fault => "invalid attestation time: " ++ fault.message
  | unresolvedPlaceholder token field => s!"unresolved placeholder '{token}' in {field}"
  | catalog fault => "catalog error: " ++ fault.message
  | settings fault => fault.message
  | invalidVariables fault => fault.message
  | patternTooLarge => "failed to compile placeholder pattern"
  | tooManyPlaces _ | columnTooWide _ => "Formatting argument out of range"

/-- Whether a cause belongs to the wording of a failure: what the system says about a file, or
what a parser or the pattern engine says about a text. -/
def hasCause : Failure → Bool
  | catalog fault =>
    match fault with
    | .unreadable _ | .malformed => true
    | .duplicateId _ | .inconsistent _ _ => false
  | settings fault =>
    match fault with
    | .unreadable _ | .malformed => true
    | .notHttp _ _ | .trailingSlash _ _ | .unknownEnvironment _ => false
  | invalidVariables fault =>
    match fault with
    | .unreadable _ | .notJson _ => true
    | .notAnObject _ _ | .unassigned _ | .unnamed _ => false
  | patternTooLarge => true
  | templateNotFound _ | invalidAttestation _ | unresolvedPlaceholder _ _ | tooManyPlaces _
  | columnTooWide _ => false

/-- The wording of a failure, given what the system or a library says. -/
def message (failure : Failure) (cause : String) : String :=
  if failure.hasCause then failure.heading ++ ": " ++ cause else failure.heading

/-- The exit code of a failure. -/
def exitCode : Failure → Nat
  | settings _ | invalidVariables _ | patternTooLarge => 1
  | templateNotFound _ => 2
  | invalidAttestation _ | unresolvedPlaceholder _ _ => 3
  | catalog _ => 4
  | tooManyPlaces _ | columnTooWide _ => 101

/-- A value, unless there is a failure. -/
def settle {α : Type} (failure? : Option Failure) (value : α) : Except Failure α :=
  match failure? with
  | some failure => .error failure
  | none => .ok value

end Failure

end PredictionMarket
