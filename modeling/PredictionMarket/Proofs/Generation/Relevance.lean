import PredictionMarket.Catalog.Builtin
import PredictionMarket.Market
import PredictionMarket.Proofs.Binding.Documented
import PredictionMarket.Proofs.Catalog.Lookup

/-!
# What generation reads

Of the variables of a caller, generation reads those that the template declares and five
others. An entry that is `null`, or a proxy that is no text, is never told from one that is
not there. So variables that agree in what is left make the same market or the same
failure.
-/

namespace PredictionMarket

namespace Binding

/-- Whether an entry can be told from one that is not there: it is not `null`, and as the proxy
it is a text. -/
def counts (name : String) (value : Json) : Bool :=
  !value.isNull && (name != Token.apiProxyPrefix || value.string?.isSome)

/-- The variables without the entries that cannot be told from ones that are not there. -/
def effective (values : Variables) : Variables := values.filter counts

/-- The variables without a value of a name. -/
def without (values : Variables) (name : String) : Variables :=
  values.filter fun other _ => other != name

/-- The names whose values are read for a schema. -/
def readNames (schema : Schema) : List String :=
  schema.keys ++
    [Token.attestationTime, Token.apiProxyPrefix, "price", "goal", Token.comparisonType]

variable {schema : Schema} {left right values : Variables} {name : String}

/-- Of a name other than the proxy the value that is given counts. -/
theorem find?_effective (notProxy : name ≠ Token.apiProxyPrefix) :
    (effective values).find? name = given values name := by
  have sameTest : counts name = fun value => !value.isNull := by
    funext value
    simp [counts, notProxy]
  rw [effective, Dict.find?_filter, given, sameTest]

/-- Of the proxy a text counts. -/
theorem find?_effective_proxy (values : Variables) :
    ((effective values).find? Token.apiProxyPrefix).bind Json.string? =
      (values.find? Token.apiProxyPrefix).bind Json.string? := by
  rw [effective, Dict.find?_filter]
  cases values.find? Token.apiProxyPrefix with
  | none => rfl
  | some value => cases value <;> rfl

/-- An attestation value that is `null` is as missing as one that is not there. -/
theorem attestationInstant_given (values : Variables) :
    attestationInstant (given values Token.attestationTime) =
      attestationInstant (values.find? Token.attestationTime) := by
  rw [given]
  cases values.find? Token.attestationTime with
  | none => rfl
  | some value => cases value <;> rfl

/-- Variables agree when the same is given under the names that are read, and the same text as
the proxy. -/
theorem Agree.of_given
    (declared : ∀ name ∈ schema.keys, name ≠ Token.apiProxyPrefix →
      given left name = given right name)
    (price : given left "price" = given right "price")
    (goal : given left "goal" = given right "goal")
    (comparison : given left Token.comparisonType = given right Token.comparisonType)
    (address : (left.find? Token.apiProxyPrefix).bind Json.string? =
      (right.find? Token.apiProxyPrefix).bind Json.string?) :
    Agree schema left right where
  text name isDeclared notAlways := by
    have notProxy : name ≠ Token.apiProxyPrefix := fun isProxy => notAlways (isProxy ▸ by decide)
    rw [declaredValue, declaredValue, declared name isDeclared notProxy]
  price := by rw [declaredValue, declaredValue, price]
  goal := by rw [declaredValue, declaredValue, goal]
  direction := by rw [direction_eq, direction_eq, directionInUse, directionInUse, comparison]
  proxy proxy := by rw [proxyToken, proxyToken, address]

/-- Variables with the same effective entries under the names that are read make the same
binding or the same fault. -/
theorem make_congr_of_effective
    (same : ∀ name ∈ readNames schema,
      (effective left).find? name = (effective right).find? name) (proxy : String) :
    make schema left proxy = make schema right proxy := by
  have read : ∀ name ∈ readNames schema, name ≠ Token.apiProxyPrefix →
      given left name = given right name := fun name isRead notProxy => by
    rw [← find?_effective notProxy, ← find?_effective notProxy, same name isRead]
  have isListed : ∀ name ∈ [Token.attestationTime, Token.apiProxyPrefix, "price", "goal",
      Token.comparisonType], name ∈ readNames schema :=
    fun name listed => List.mem_append_right _ listed
  have sameTime : attestationInstant (left.find? Token.attestationTime) =
      attestationInstant (right.find? Token.attestationTime) := by
    rw [← attestationInstant_given left, ← attestationInstant_given right,
      read Token.attestationTime (isListed _ (by decide)) (by decide)]
  -- The proxy is the one value that is read in another way: any text counts, and nothing else.
  refine make_congr sameTime (.of_given (fun name declared => ?_) ?_ ?_ ?_ ?_) proxy
  · exact read name (List.mem_append_left _ declared)
  · exact read "price" (isListed _ (by decide)) (by decide)
  · exact read "goal" (isListed _ (by decide)) (by decide)
  · exact read Token.comparisonType (isListed _ (by decide)) (by decide)
  · rw [← find?_effective_proxy left, ← find?_effective_proxy right,
      same Token.apiProxyPrefix (isListed _ (by decide))]

/-- An insertion under another name leaves the effective entry of a name. -/
theorem find?_effective_insert_of_ne {other : String} {value : Json} (different : name ≠ other) :
    (effective (values.insert other value)).find? name = (effective values).find? name := by
  rw [effective, effective, Dict.find?_filter, Dict.find?_filter, Dict.find?_insert,
    if_neg different]

/-- An entry that does not count has the effective entries of variables without it. -/
theorem find?_effective_insert_of_not_counts {other : String} {value : Json}
    (idle : counts other value = false) :
    (effective (values.insert other value)).find? name =
      (effective (without values other)).find? name := by
  rw [effective, effective, without, Dict.find?_filter, Dict.find?_filter, Dict.find?_filter,
    Dict.find?_insert]
  by_cases here : name = other
  · subst here
    rw [if_pos rfl, Option.filter_some, idle]
    cases values.find? name <;> simp
  · have kept : (name != other) = true := bne_iff_ne.2 here
    rw [if_neg here]
    cases values.find? name <;> simp [kept]

end Binding

namespace Market

/-- Generation ignores what it should ignore. Variables with the same effective entries under
the names that are read, which are the declared ones and five others, make the same market or
the same failure. So an entry under any other name has no effect, `null` has the effect of no
entry, and so has a proxy that is no text, declared or not. -/
theorem generate_reads_effective_entries (engine : PatternEngine) (catalog : Catalog)
    (options : GenerationOptions) (id : String) :
    (∀ left right : Variables,
      (∀ template, catalog.find? id = some template → ∀ name ∈ Binding.readNames template.schema,
        (Binding.effective left).find? name = (Binding.effective right).find? name) →
      generate engine catalog options id left = generate engine catalog options id right) ∧
    (∀ (values : Variables) name value,
      (∀ template, catalog.find? id = some template → name ∉ Binding.readNames template.schema) →
      generate engine catalog options id (values.insert name value) =
        generate engine catalog options id values) ∧
    (∀ (values : Variables) name,
      generate engine catalog options id (values.insert name .null) =
        generate engine catalog options id (Binding.without values name)) ∧
    ∀ (values : Variables) value, value.string? = none →
      generate engine catalog options id (values.insert Token.apiProxyPrefix value) =
        generate engine catalog options id (Binding.without values Token.apiProxyPrefix) := by
  have agreement : ∀ left right : Variables,
      (∀ template, catalog.find? id = some template → ∀ name ∈ Binding.readNames template.schema,
        (Binding.effective left).find? name = (Binding.effective right).find? name) →
      generate engine catalog options id left = generate engine catalog options id right := by
    intro left right same
    unfold generate
    cases found : catalog.find? id with
    | none => rfl
    | some template =>
      simp only [Binding.make_congr_of_effective (same template found) options.proxy]
  refine ⟨agreement, fun values name value unread => ?_, fun values name => ?_,
    fun values value noText => ?_⟩
  · refine agreement _ _ fun template found queried isRead => ?_
    have different : queried ≠ name := fun here => unread template found (here ▸ isRead)
    exact Binding.find?_effective_insert_of_ne different
  · refine agreement _ _ fun _ _ queried _ => ?_
    exact Binding.find?_effective_insert_of_not_counts rfl
  · have idle : Binding.counts Token.apiProxyPrefix value = false := by
      simp [Binding.counts, noText]
    refine agreement _ _ fun _ _ queried _ => ?_
    exact Binding.find?_effective_insert_of_not_counts idle

/-- The catalog of a template that declares the direction, the proxy and the grouped price. -/
def collidingCatalog : Catalog :=
  ⟨[{ Builtin.tvlGoal with schema := Binding.collidingSchema }], _, rfl⟩

/-- An evening in UTC and a price in words. -/
def bareValues : Variables :=
  Dict.ofList [("attestationTime", .string "2025-02-05T20:07:03Z"), ("price", .string "five")]

/-- A direction that is `null`, a proxy that is no text, although both are declared, and an
entry that is not declared have no effect. -/
theorem generate_ignores_clutter :
    (∀ name ∈ Binding.readNames Binding.collidingSchema,
      (Binding.effective Binding.collidingValues).find? name =
        (Binding.effective bareValues).find? name) ∧
    "goalFormatted" ∉ Binding.readNames Binding.collidingSchema ∧
    generate .standard collidingCatalog ⟨"/proxy", false⟩ "tvl-goal"
        (Binding.collidingValues.insert "goalFormatted" (.string "none")) =
      generate .standard collidingCatalog ⟨"/proxy", false⟩ "tvl-goal" bareValues := by
  have names : Binding.readNames Binding.collidingSchema =
      ["apiProxyPrefix", "comparisonType", "price", "priceFormatted", "attestationTime",
        "apiProxyPrefix", "price", "goal", "comparisonType"] := by decide +kernel
  have same : ∀ name ∈ Binding.readNames Binding.collidingSchema,
      (Binding.effective Binding.collidingValues).find? name =
        (Binding.effective bareValues).find? name := by
    rw [names]
    simp only [List.forall_mem_cons]
    exact ⟨rfl, rfl, rfl, rfl, rfl, rfl, rfl, rfl, rfl, by simp⟩
  have unread : "goalFormatted" ∉ Binding.readNames Binding.collidingSchema := by
    rw [names]
    decide
  obtain ⟨agreement, undeclared, -⟩ :=
    generate_reads_effective_entries .standard collidingCatalog ⟨"/proxy", false⟩ "tvl-goal"
  have found : ∀ template, collidingCatalog.find? "tvl-goal" = some template →
      template.schema = Binding.collidingSchema := by
    intro template found
    have stored : collidingCatalog.find? "tvl-goal" =
        some { Builtin.tvlGoal with schema := Binding.collidingSchema } := rfl
    cases stored.symm.trans found
    rfl
  refine ⟨same, unread, (undeclared _ _ _ fun template isFound => ?_).trans
    (agreement _ _ fun template isFound => ?_)⟩
  · rw [found template isFound]
    exact unread
  · rw [found template isFound]
    exact same

end Market

end PredictionMarket
