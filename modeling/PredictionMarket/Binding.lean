import PredictionMarket.Attestation
import PredictionMarket.Calendar.Display
import PredictionMarket.Template.Basic

/-!
# Bindings

A binding gives a text to every token that a template may mention. It is made from the
schema of the template, the variables of the caller and the proxy of the deployment.
Declared variables stand for themselves; the computed tokens are derived from them and
from the attestation time, and they prevail over declared variables of the same name.
-/

namespace PredictionMarket

open Calendar (Instant)

/-- Tokens and the texts that replace them. -/
abbrev Binding := Dict String

/-- The variables of a caller. -/
abbrev Variables := Dict Json

namespace Token

/-- The attestation time in UTC, to the minute. -/
def attestationTime : String := "attestationTime"
/-- The attestation time in seconds. -/
def attestationTimeUnix : String := "attestationTimeUnix"
/-- The attestation time in milliseconds. -/
def attestationTimeUnixMs : String := "attestationTimeUnixMs"
/-- The second at which the price window opens. -/
def attestationWindowStartUnix : String := "attestationWindowStartUnix"
/-- The date of the attestation time in UTC. -/
def attestationTimeDate : String := "attestationTimeDate"
/-- The attestation time in Shanghai. -/
def attestationTimeFormatted : String := "attestationTimeFormatted"
/-- The attestation time in UTC, to the second. -/
def matchDateFormatted : String := "matchDateFormatted"
/-- The direction of a comparison. -/
def comparisonType : String := "comparisonType"
/-- The operator of a comparison. -/
def comparisonOp : String := "comparisonOp"
/-- The price with grouped digits. -/
def priceFormatted : String := "priceFormatted"
/-- The goal with grouped digits. -/
def goalFormatted : String := "goalFormatted"
/-- The address of the proxy. -/
def apiProxyPrefix : String := "apiProxyPrefix"

/-- The tokens that may be bound without being declared. -/
def computed : List String := [
  attestationTime, attestationTimeUnix, attestationTimeUnixMs, attestationWindowStartUnix,
  attestationTimeDate, attestationTimeFormatted, matchDateFormatted, comparisonType,
  comparisonOp, priceFormatted, goalFormatted, apiProxyPrefix]

end Token

/-- The operator of a comparison in a direction: only below is strict. -/
def comparisonOperator (direction : String) : String :=
  if direction = "below" then "<" else ">="

/-- The direction of a comparison when none is given. -/
def defaultDirection : String := "above"

/-- The places of a grouped number when the schema does not say how many. -/
def defaultPlaces : Nat := 3

/-- The seconds of the price window that ends at the attestation time. -/
def priceWindow : Int := 3600

/-- The decimal text of an integer. -/
def secondsText (seconds : Int) : String := String.ofList (Decimal.intText seconds)

namespace Binding

/-- The value that a caller gives to a variable; `null` is no value. -/
def given (values : Variables) (name : String) : Option Json :=
  (values.find? name).filter fun value => !value.isNull

/-- The value of a declared variable: the one given, or else its default. -/
def declaredValue (schema : Schema) (values : Variables) (name : String) : Option Json :=
  (given values name).or ((schema.find? name).bind Variable.fallback)

/-- The tokens of the declared variables that have a text. -/
def declaredTokens (schema : Schema) (values : Variables) : List (String × String) :=
  schema.keys.filterMap fun name =>
    ((declaredValue schema values name).bind Json.plainText?).map fun text => (name, text)

/-- The address of the proxy: a text that the caller gives, or else that of the
deployment. -/
def proxyToken (values : Variables) (proxy : String) : String × String :=
  (Token.apiProxyPrefix,
    ((values.find? Token.apiProxyPrefix).bind Json.string?).getD proxy)

/-- The places of a variable as a grouped number. -/
def places (schema : Schema) (name : String) : Nat :=
  (((schema.find? name).bind Variable.decimals).map UInt32.toNat).getD defaultPlaces

/-- The grouped text of an amount, which has so many places at most as a number can be written
with. -/
def groupedText (amount : Decimal.Double) (places : Nat) : Except Failure String :=
  if places ≤ Decimal.mostPlaces then .ok (String.ofList (amount.grouped places))
  else .error (.tooManyPlaces places)

/-- The grouped form of a variable under a token, if the variable is an amount. -/
def groupedToken (schema : Schema) (values : Variables) (name token : String) :
    Except Failure (List (String × String)) :=
  match (declaredValue schema values name).bind Json.amount? with
  | some amount => do
    let text ← groupedText amount (places schema name)
    return [(token, text)]
  | none => .ok []

/-- The direction of the comparison. -/
def direction (values : Variables) : String :=
  ((values.find? Token.comparisonType).bind Json.plainText?).getD defaultDirection

/-- The tokens of the comparison. -/
def comparisonTokens (values : Variables) : List (String × String) :=
  [(Token.comparisonOp, comparisonOperator (direction values)),
    (Token.comparisonType, direction values)]

/-- The tokens of the attestation time. -/
def timeTokens (instant : Instant) : List (String × String) :=
  [(Token.attestationTime, instant.displayText),
    (Token.attestationTimeUnix, secondsText instant.seconds),
    (Token.attestationTimeUnixMs, secondsText (instant.seconds * 1000)),
    (Token.attestationWindowStartUnix, secondsText (instant.seconds - priceWindow)),
    (Token.attestationTimeDate, instant.dateText),
    (Token.attestationTimeFormatted, instant.shanghaiText),
    (Token.matchDateFormatted, instant.longText)]

/-- All tokens at an instant; of two with one name the later one prevails. -/
def tokensAt (instant : Instant) (schema : Schema) (values : Variables) (proxy : String) :
    Except Failure (List (String × String)) := do
  let price ← groupedToken schema values "price" Token.priceFormatted
  let goal ← groupedToken schema values "goal" Token.goalFormatted
  return declaredTokens schema values ++
    proxyToken values proxy ::
    price ++ goal ++
    comparisonTokens values ++
    timeTokens instant

/-- The binding for a schema, the variables of a caller and the proxy of a deployment. -/
def make (schema : Schema) (values : Variables) (proxy : String) :
    Except Failure Binding :=
  match attestationInstant (values.find? Token.attestationTime) with
  | .ok instant => (tokensAt instant schema values proxy).map Dict.ofList
  | .error fault => .error (.invalidAttestation fault)

end Binding

end PredictionMarket
