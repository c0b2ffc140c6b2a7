import PredictionMarket.Failure
import PredictionMarket.Market

/-!
# Settings

The settings of a deployment: its environment, the proxy of every environment, whether
placeholders without a value are failures, and a file with more templates. Settings are
valid when every proxy is an HTTP address without a slash at its end.
-/

namespace PredictionMarket

/-- The proxy of every environment. -/
structure Proxies where
  development : String
  staging : String
  production : String
deriving DecidableEq

namespace Proxies

/-- The proxies of a deployment that names none. -/
def standard : Proxies where
  development := "http://localhost:8787"
  staging := "https://proxy.staging.marketgen.example"
  production := "https://proxy.marketgen.example"

/-- The proxy of an environment. -/
def of (proxies : Proxies) : Environment → String
  | .development => proxies.development
  | .staging => proxies.staging
  | .production => proxies.production

end Proxies

/-- Whether an address names a protocol of the web. -/
def isHttp (address : String) : Bool :=
  "http://".toList.isPrefixOf address.toList || "https://".toList.isPrefixOf address.toList

/-- What is wrong with the proxy of an environment. -/
def proxyFault? (environment : Environment) (proxy : String) : Option SettingsFault :=
  if !isHttp proxy then some (.notHttp environment proxy)
  else if proxy.toList.getLast? = some '/' then some (.trailingSlash environment proxy)
  else none

/-- The settings of a deployment. -/
structure Settings where
  environment : Environment
  /-- Whether a placeholder without a value is a failure. -/
  strict : Bool
  proxies : Proxies
  /-- The file with the templates that come after the built-in ones. -/
  catalogPath : Option String
deriving DecidableEq

namespace Settings

/-- The settings of a deployment that has none of its own. -/
def standard : Settings where
  environment := .production
  strict := false
  proxies := .standard
  catalogPath := none

instance : Inhabited Settings := ⟨standard⟩

/-- The first fault of the settings, in the order of environments. -/
def fault? (settings : Settings) : Option SettingsFault :=
  Environment.all.findSome? fun environment =>
    proxyFault? environment (settings.proxies.of environment)

/-- Whether the settings have no fault. -/
def Valid (settings : Settings) : Prop := settings.fault? = none

instance (settings : Settings) : Decidable settings.Valid :=
  inferInstanceAs (Decidable (_ = none))

/-- The settings if they are valid, and else their first fault. -/
def validated (settings : Settings) : Except Failure Settings :=
  match settings.fault? with
  | none => .ok settings
  | some fault => .error (.settings fault)

/-- The proxy of the environment of the settings. -/
def proxy (settings : Settings) : String := settings.proxies.of settings.environment

/-- How markets are generated under the settings. -/
def generation (settings : Settings) : GenerationOptions where
  proxy := settings.proxy
  strict := settings.strict

/-- Moves settings to the environment that a text names, unless the text is blank. Gives the
settings behind the move, and the failure when the text names no environment. -/
def inEnvironment (settings : Settings) (text : Option String) : Settings × Option Failure :=
  match text with
  | none => (settings, none)
  | some text =>
    if (Text.trim text.toList).isEmpty then (settings, none)
    else
      match Environment.ofText? text with
      | some environment => ({ settings with environment }, none)
      | none => (settings, some (.settings (.unknownEnvironment text)))

/-- Settings are valid exactly when every proxy is without fault. -/
theorem valid_iff {settings : Settings} :
    settings.Valid ↔
      ∀ environment, proxyFault? environment (settings.proxies.of environment) = none := by
  simp only [Valid, fault?, Environment.all, List.findSome?_eq_none_iff, List.mem_cons,
    List.not_mem_nil, or_false]
  constructor
  · intro faultless environment
    cases environment <;> exact faultless _ (by simp)
  · intro faultless environment _
    exact faultless environment

end Settings

end PredictionMarket
