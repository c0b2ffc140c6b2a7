import PredictionMarket.Proofs.Generation.Relevance
import PredictionMarket.Proofs.Generation.StrictMode
import PredictionMarket.Proofs.Settings.Reachable

/-!
# Queries go through the proxy

A slot at the beginning of a text is filled first, and what follows it up to the next
opening brace is kept (`Renderer.toList_apply_token`, `Cut.fill_cons`). So an endpoint that
begins with the placeholder of the proxy and a slash is rendered as an address at the proxy
in use, which is a text of the caller or else the proxy of the environment. A declaration
under that name has no effect at all (`Binding.make_insert_unconditional`).
-/

namespace PredictionMarket

open Placeholder
open Calendar (Instant)

namespace Cut

variable {keys : List String}

/-- When no brace stands in a key, a key has the slot at the beginning of a text that begins
with its token. -/
theorem slotAt?_token (free : ∀ key ∈ keys, BraceFree key.toList) {key : String}
    (isKey : key ∈ keys) (rest : List Char) :
    slotAt? keys (token key.toList ++ rest) = some key := by
  have stands : token key.toList <+: token key.toList ++ rest := List.prefix_append _ _
  cases found : slotAt? keys (token key.toList ++ rest) with
  | none => exact absurd stands (slotAt?_eq_none_iff.1 found key isKey)
  | some other =>
    obtain ⟨otherIsKey, otherStands⟩ := slotAt?_eq_some found
    rw [String.toList_inj.1
      (name_eq_of_begins (free other otherIsKey) (free key isKey) otherStands stands)]

/-- A character that is no opening brace is kept. -/
theorem fill_cons {c : Char} (other : c ≠ '\x7b') (rest : List Char)
    (value : String → List Char) :
    (ofText keys (c :: rest)).fill value = c :: (ofText keys rest).fill value := by
  refine fill_kept value (slotAt?_eq_none_iff.2 fun key _ stands => other ?_)
  rw [token] at stands
  exact (List.cons_prefix_cons.1 stands).1.symm

end Cut

/-- A text that begins with the token of a key is rendered as the value of the key, followed
by the rest as it is rendered. -/
theorem Renderer.toList_apply_token {renderer : Renderer} {key value text : String}
    {rest : List Char} (free : ∀ key ∈ renderer.binding.keys, BraceFree key.toList)
    (bound : renderer.binding.find? key = some value)
    (begins : text.toList = token key.toList ++ rest) :
    (renderer.apply text).toList =
      value.toList ++ (Cut.ofText renderer.binding.keys rest).fill renderer.binding.valueOf := by
  have found := Cut.slotAt?_token free (Dict.mem_keys_of_find? bound) rest
  rw [toList_apply, begins, Cut.fill_slot _ found, Binding.valueOf, bound, Option.getD_some]

namespace Binding

variable {schema : Schema} {values : Variables} {proxy : String}

/-- A token that every binding has hides the declared variable of its name, so it makes no
difference whether and how one is declared. -/
theorem make_insert_unconditional {name : String} (always : name ∈ Token.unconditional)
    (declared : Variable) :
    make (schema.insert name declared) values proxy = make schema values proxy := by
  have other : ∀ input, input ∉ Token.unconditional →
      (schema.insert name declared).find? input = schema.find? input := by
    intro input notAlways
    rw [Dict.find?_insert, if_neg]
    rintro rfl
    exact notAlways always
  have value : ∀ input, input ∉ Token.unconditional →
      declaredValue (schema.insert name declared) values input =
        declaredValue schema values input := fun input notAlways => by
    rw [declaredValue, declaredValue, other input notAlways]
  have isKey : ∀ input, input ∉ Token.unconditional →
      (input ∈ (schema.insert name declared).keys ↔ input ∈ schema.keys) := by
    intro input notAlways
    rw [← Dict.contains_iff, ← Dict.contains_iff, Dict.contains, Dict.contains,
      other input notAlways]
  have noPrice : "price" ∉ Token.unconditional := by decide
  have noGoal : "goal" ∉ Token.unconditional := by decide
  have samePlaces : ∀ input, input ∉ Token.unconditional →
      places (schema.insert name declared) input = places schema input := fun input notAlways => by
    rw [places, places, other input notAlways]
  have computed : ∀ instant, computedTokens instant (schema.insert name declared) values proxy =
      computedTokens instant schema values proxy := by
    intro instant
    simp only [computedTokens, groupedEntries, value _ noPrice, value _ noGoal,
      samePlaces _ noPrice, samePlaces _ noGoal]
  have fault : formatFault? (schema.insert name declared) values = formatFault? schema values := by
    simp only [formatFault?, groupedFault?, value _ noPrice, value _ noGoal,
      samePlaces _ noPrice, samePlaces _ noGoal]
  cases parsed : attestationInstant (values.find? Token.attestationTime) with
  | error fault => rw [make_of_fault parsed, make_of_fault parsed]
  | ok instant =>
    rw [make_of_parsed parsed, make_of_parsed parsed, fault]
    refine congrArg (Failure.settle _) (Dict.eq_of_find?_eq fun input => ?_)
    by_cases isComputed : input ∈ (computedTokens instant schema values proxy).map (·.1)
    · obtain ⟨⟨_, text⟩, listed, rfl⟩ := List.mem_map.1 isComputed
      rw [find?_of_computed listed, find?_of_computed ((computed instant).symm ▸ listed)]
    · have notAlways : input ∉ Token.unconditional := fun isAlways =>
        isComputed (mem_map_computedTokens.2 (.inl isAlways))
      rw [find?_of_not_computed isComputed,
        find?_of_not_computed ((computed instant).symm ▸ isComputed), value input notAlways]
      simp only [isKey input notAlways]

end Binding

/-- What a template must keep to for its queries to go through the proxy. -/
structure Template.UsesProxy (template : Template) : Prop where
  /-- No brace stands in a declared name. -/
  braceFree : ∀ name ∈ template.schema.keys, BraceFree name.toList
  /-- An endpoint begins with the placeholder of the proxy and a slash. -/
  endpoints : ∀ source ∈ template.sources,
    token Token.apiProxyPrefix.toList ++ ['/'] <+: source.endpoint.toList

instance (template : Template) : Decidable template.UsesProxy :=
  decidable_of_iff
    ((∀ name ∈ template.schema.keys, BraceFree name.toList) ∧
      ∀ source ∈ template.sources,
        token Token.apiProxyPrefix.toList ++ ['/'] <+: source.endpoint.toList)
    ⟨fun both => ⟨both.1, both.2⟩, fun uses => ⟨uses.braceFree, uses.endpoints⟩⟩

/-- In a binding for such a template an endpoint is rendered as an address at the proxy in
use. -/
theorem Template.UsesProxy.begins_apply {template : Template} (uses : template.UsesProxy)
    {source : DataSource} (listed : source ∈ template.sources) (instant : Instant)
    (values : Variables) (proxy : String) (strict : Bool) :
    (Binding.proxyInUse values proxy).toList ++ ['/'] <+:
      (Renderer.apply ⟨Binding.atInstant instant template.schema values proxy, strict⟩
        source.endpoint).toList := by
  have bound : (Binding.atInstant instant template.schema values proxy).find?
      Token.apiProxyPrefix = some (Binding.proxyInUse values proxy) :=
    Binding.find?_of_computed (Binding.mem_computedTokens.2 (.inl Binding.proxyToken_eq.symm))
  obtain ⟨rest, begins⟩ := uses.endpoints source listed
  rw [List.append_assoc, List.singleton_append] at begins
  rw [Renderer.toList_apply_token (Binding.keys_braceFree uses.braceFree) bound begins.symm,
    Cut.fill_cons (by decide)]
  exact ⟨_, by rw [List.append_assoc, List.singleton_append]⟩

/-- Settings without fault have a proxy that begins with a protocol of the web. -/
theorem Settings.Valid.isHttp_proxy {settings : Settings} (valid : settings.Valid) :
    isHttp settings.proxy = true := by
  obtain ⟨protocol, isProtocol, place, -, split, -⟩ := valid.isProxyAddress
  exact isHttp_iff.2 ⟨protocol, isProtocol, place, split.symm⟩

/-- What begins with an address of the web is one. -/
theorem isHttp_of_prefix {address longer : String} (http : isHttp address = true)
    (begins : address.toList <+: longer.toList) : isHttp longer = true := by
  simp only [isHttp, Bool.or_eq_true, List.isPrefixOf_iff_prefix] at http ⊢
  exact http.imp (List.IsPrefix.trans · begins) (List.IsPrefix.trans · begins)

namespace Market

/-- Every query goes to the active proxy. The built-in templates use the proxy; and when a
template that does so is generated under valid settings, strictly or not, every endpoint of
the market begins with the proxy in use and a slash. That is the text that the caller gives
for it, and else the proxy of the environment of the settings, in which case the endpoint is
an address of the web. Whether and how the template declares the variable of that name makes
no difference to the binding. -/
theorem generated_endpoints_begin_with_proxy :
    (∀ template ∈ Catalog.builtin.templates, template.UsesProxy) ∧
    ∀ (engine : PatternEngine) (settings : Settings) (strict : Bool) (catalog : Catalog)
      (id : String) (template : Template) (values : Variables) (market : Market),
      settings.Valid → catalog.find? id = some template → template.UsesProxy →
      generate engine catalog { settings.generation with strict } id values = .ok market →
      (∀ query ∈ market.queries,
        (Binding.proxyInUse values settings.proxy).toList ++ ['/'] <+: query.endpoint.toList) ∧
      (∀ address, values.find? Token.apiProxyPrefix = some (.string address) →
        Binding.proxyInUse values settings.proxy = address) ∧
      ((∀ address, values.find? Token.apiProxyPrefix ≠ some (.string address)) →
        Binding.proxyInUse values settings.proxy =
            settings.proxies.of settings.environment ∧
          ∀ query ∈ market.queries, isHttp query.endpoint = true) ∧
      ∀ declared : Variable,
        Binding.make (template.schema.insert Token.apiProxyPrefix declared) values
            settings.proxy =
          Binding.make template.schema values settings.proxy := by
  refine ⟨by decide +kernel, fun engine settings strict catalog id template values market valid
    found uses generated => ?_⟩
  have begins : ∀ query ∈ market.queries,
      (Binding.proxyInUse values settings.proxy).toList ++ ['/'] <+: query.endpoint.toList := by
    obtain ⟨_, instant, isFound, -, -, rfl⟩ := exists_of_generate generated
    cases Option.some.inj (found.symm.trans isFound)
    intro query isQuery
    obtain ⟨source, listed, rfl⟩ := List.mem_map.1 isQuery
    exact uses.begins_apply listed instant values settings.proxy strict
  refine ⟨begins, fun address given => ?_, fun notGiven => ?_, fun declared =>
    Binding.make_insert_unconditional (by decide) declared⟩
  · rw [Binding.proxyInUse, given]
  · have ofSettings : Binding.proxyInUse values settings.proxy = settings.proxy := by
      unfold Binding.proxyInUse
      split
      case h_1 address given => exact absurd given (notGiven address)
      case h_2 => rfl
    refine ⟨ofSettings, fun query isQuery => isHttp_of_prefix valid.isHttp_proxy ?_⟩
    rw [← ofSettings]
    exact (List.prefix_append _ _).trans (begins query isQuery)

/-- A template that declares the proxy with a default, and a caller whose proxy is no text:
the queries go to the proxy of the environment. -/
theorem colliding_endpoints_begin_with_proxy :
    Settings.standard.Valid ∧ Template.UsesProxy { Builtin.tvlGoal with
      schema := Binding.collidingSchema } ∧
    ∃ market, generate .standard collidingCatalog Settings.standard.generation "tvl-goal"
        Binding.collidingValues = .ok market ∧
      ∀ query ∈ market.queries,
        "https://proxy.marketgen.example/".toList <+: query.endpoint.toList := by
  have valid : Settings.standard.Valid := by decide
  have uses : Template.UsesProxy { Builtin.tvlGoal with schema := Binding.collidingSchema } := by
    decide +kernel
  have found : collidingCatalog.find? "tvl-goal" =
      some { Builtin.tvlGoal with schema := Binding.collidingSchema } := rfl
  have generated : generate .standard collidingCatalog Settings.standard.generation "tvl-goal"
      Binding.collidingValues = _ :=
    (generate_of_ready found (by decide) Binding.attestationInstant_collidingValues
      (by decide +kernel)).trans (ofTemplate_lenient _ _)
  obtain ⟨begins, -, notGiven, -⟩ := generated_endpoints_begin_with_proxy.2 .standard
    Settings.standard false collidingCatalog "tvl-goal" _ Binding.collidingValues _ valid found uses
    generated
  have inUse := (notGiven (by
    intro address given
    cases (rfl : Binding.collidingValues.find? Token.apiProxyPrefix =
      some (.bool true)).symm.trans given)).1
  refine ⟨valid, uses, _, generated, fun query isQuery => ?_⟩
  have here := begins query isQuery
  rw [inUse] at here
  exact here

end Market

end PredictionMarket
