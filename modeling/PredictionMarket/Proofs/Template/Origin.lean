import PredictionMarket.Proofs.Dictionary
import PredictionMarket.Market

/-!
# Where the values in records come from

The bodies of data sources and the defaults of variables are the only values of any kind in a
template, and the bodies of queries in a market. Each was read from a datum that stands at a
certain depth in the datum of the template or market, whatever kind of datum it is: `Nesting`
says what is needed of the kind, and the readers of records are followed down from there.
-/

namespace PredictionMarket

open Datum

/-- Effects of which it is known what a computation may return. -/
class Returning (μ : Type → Type) [Monad μ] where
  Returns {α : Type} : μ α → α → Prop
  eq_of_pure {α : Type} {value result : α} : Returns (pure value) result → result = value
  exists_of_bind {α β : Type} {first : μ α} {next : α → μ β} {result : β} :
    Returns (first >>= next) result → ∃ value, Returns first value ∧ Returns (next value) result

open Returning

/-- A computation that may fail returns its value. -/
instance : Returning Option where
  Returns computed result := computed = some result
  eq_of_pure returned := (Option.some.inj returned).symm
  exists_of_bind returned := Option.bind_eq_some_iff.1 returned

/-- A computation that may fail with a cause returns its value. -/
instance {ε : Type} : Returning (Except ε) where
  Returns computed result := computed = .ok result
  eq_of_pure returned := (Except.ok.inj returned).symm
  exists_of_bind {_ _ first _ _} returned := by
    cases first with
    | error cause => cases returned
    | ok value => exact ⟨value, rfl, returned⟩

section Records

variable {ν α : Type} {μ : Type → Type} [Monad μ] [Returning μ] [Datum ν μ]

/-- What holds of data at each depth, and of the values of any kind that are read from them. -/
structure Nesting (Holds : Nat → ν → Prop) (Good : Nat → Json → Prop) : Prop where
  members : ∀ {depth value found}, Holds (depth + 1) value → Returns (Datum.members value) found →
    ∀ member ∈ found, Holds depth member.2
  record : ∀ {depth value fields found}, Holds (depth + 1) value →
    Returns (Datum.record fields value) found → ∀ member ∈ found, Holds depth member.2
  elements : ∀ {depth value found}, Holds (depth + 1) value →
    Returns (Datum.elements value) found → ∀ element ∈ found, Holds depth element
  json : ∀ {depth value shown result}, Holds depth value →
    Returns (Datum.present value) (some shown) → Returns (Datum.json shown) result →
      Good depth result
  refuse : ∀ {α : Type} {result : α}, ¬ Returns (Datum.refuse ν : μ α) result

variable {Holds : Nat → ν → Prop} {Good : Nat → Json → Prop}

namespace Nesting

variable (nesting : Nesting Holds Good) {read : ν → μ α} {given : List (String × ν)}
  {name : String} {result : α}
include nesting

/-- A field that is given is one of the members. -/
theorem exists_of_field {value : ν} (returned : Returns (field given name) (some value)) :
    ∃ member ∈ given, member.2 = value := by
  unfold field at returned
  split at returned
  · cases eq_of_pure returned
  · next member found =>
    cases eq_of_pure returned
    exact ⟨member, (List.mem_filter.1 (found ▸ List.mem_singleton.2 rfl)).1, rfl⟩
  · exact absurd returned nesting.refuse

/-- What is read of a field that must be there is read of one of the members. -/
theorem exists_of_requiredField (returned : Returns (requiredField read given name) result) :
    ∃ member ∈ given, Returns (read member.2) result := by
  obtain ⟨found, isField, returned⟩ := exists_of_bind returned
  cases found with
  | none => exact absurd returned nesting.refuse
  | some value =>
    obtain ⟨member, listed, rfl⟩ := nesting.exists_of_field isField
    exact ⟨member, listed, returned⟩

/-- What is read of a field with a default is the default, or read of one of the members. -/
theorem exists_of_defaultedField {default : α}
    (returned : Returns (defaultedField read default given name) result) :
    result = default ∨ ∃ member ∈ given, Returns (read member.2) result := by
  obtain ⟨found, isField, returned⟩ := exists_of_bind returned
  cases found with
  | none => exact .inl (eq_of_pure returned)
  | some value =>
    obtain ⟨member, listed, rfl⟩ := nesting.exists_of_field isField
    exact .inr ⟨member, listed, returned⟩

/-- What is read of a field that may be absent is read of what is present in one of the
members. -/
theorem exists_of_optionalField
    (returned : Returns (optionalField read given name) (some result)) :
    ∃ member ∈ given, ∃ shown,
      Returns (present member.2) (some shown) ∧ Returns (read shown) result := by
  obtain ⟨found, isField, returned⟩ := exists_of_bind returned
  cases found with
  | none => cases eq_of_pure returned
  | some value =>
    obtain ⟨member, listed, rfl⟩ := nesting.exists_of_field isField
    obtain ⟨shown, isPresent, returned⟩ := exists_of_bind returned
    cases shown with
    | none => cases eq_of_pure returned
    | some shown =>
      obtain ⟨value, isRead, returned⟩ := exists_of_bind returned
      cases eq_of_pure returned
      exact ⟨member, listed, shown, isPresent, isRead⟩

end Nesting

section Lists

variable [LawfulMonad μ]

/-- What is returned one by one is returned for one of the inputs. -/
theorem exists_of_mapM {β : Type} {convert : β → μ α} {inputs : List β} {results : List α}
    (returned : Returns (inputs.mapM convert) results) :
    ∀ result ∈ results, ∃ input ∈ inputs, Returns (convert input) result := by
  induction inputs generalizing results with
  | nil =>
    rw [List.mapM_nil] at returned
    cases eq_of_pure returned
    exact fun _ listed => by cases listed
  | cons first rest inductionHypothesis =>
    rw [List.mapM_cons] at returned
    obtain ⟨head, isHead, returned⟩ := exists_of_bind returned
    obtain ⟨tail, isTail, returned⟩ := exists_of_bind returned
    cases eq_of_pure returned
    intro result listed
    rcases List.mem_cons.1 listed with rfl | later
    · exact ⟨first, List.mem_cons_self, isHead⟩
    · obtain ⟨input, isInput, isRead⟩ := inductionHypothesis isTail result later
      exact ⟨input, List.mem_cons_of_mem _ isInput, isRead⟩

/-- What is read of a list is read of its elements. -/
theorem exists_of_list {read : ν → μ α} {value : ν} {results : List α}
    (returned : Returns (list read value) results) :
    ∃ found, Returns (elements value) found ∧
      ∀ result ∈ results, ∃ element ∈ found, Returns (read element) result := by
  obtain ⟨found, isFound, returned⟩ := exists_of_bind returned
  exact ⟨found, isFound, exists_of_mapM returned⟩

/-- What is read of a dictionary is read of its members. -/
theorem exists_of_dict {read : ν → μ α} {value : ν} {results : Dict α}
    (returned : Returns (dict read value) results) :
    ∃ found, Returns (Datum.members value) found ∧
      ∀ entry ∈ results.entries, ∃ member ∈ found, Returns (read member.2) entry.2 := by
  obtain ⟨found, isFound, returned⟩ := exists_of_bind returned
  obtain ⟨entries, areEntries, returned⟩ := exists_of_bind returned
  cases eq_of_pure returned
  refine ⟨found, isFound, fun entry listed => ?_⟩
  obtain ⟨member, isMember, returned⟩ :=
    exists_of_mapM areEntries entry (Dict.mem_of_mem_ofList listed)
  obtain ⟨value, isRead, returned⟩ := exists_of_bind returned
  cases eq_of_pure returned
  exact ⟨member, isMember, isRead⟩

end Lists

namespace Nesting

variable (nesting : Nesting Holds Good) (depth : Nat) {value : ν}
include nesting

/-- The default of a variable is good at the depth below that of the variable. -/
theorem fallback_of_read {schema : Variable} (holds : Holds (depth + 1) value)
    (returned : Returns (Variable.read value) schema) :
    ∀ json ∈ schema.fallback, Good depth json := by
  obtain ⟨given, isGiven, returned⟩ := exists_of_bind returned
  obtain ⟨kind, -, returned⟩ := exists_of_bind returned
  obtain ⟨required, -, returned⟩ := exists_of_bind returned
  obtain ⟨label, -, returned⟩ := exists_of_bind returned
  obtain ⟨fallback, isFallback, returned⟩ := exists_of_bind returned
  obtain ⟨decimals, -, returned⟩ := exists_of_bind returned
  obtain ⟨options, -, returned⟩ := exists_of_bind returned
  obtain ⟨entity, -, returned⟩ := exists_of_bind returned
  cases eq_of_pure returned
  intro json isJson
  cases isJson
  obtain ⟨member, listed, shown, isPresent, isRead⟩ := nesting.exists_of_optionalField isFallback
  exact nesting.json (nesting.record holds isGiven member listed) isPresent isRead

/-- The body of a data source is good at the depth below that of the source. -/
theorem body_of_read {source : DataSource} (holds : Holds (depth + 1) value)
    (returned : Returns (DataSource.read value) source) : ∀ json ∈ source.body, Good depth json := by
  obtain ⟨given, isGiven, returned⟩ := exists_of_bind returned
  obtain ⟨name, -, returned⟩ := exists_of_bind returned
  obtain ⟨method, -, returned⟩ := exists_of_bind returned
  obtain ⟨endpoint, -, returned⟩ := exists_of_bind returned
  obtain ⟨query, -, returned⟩ := exists_of_bind returned
  obtain ⟨headers, -, returned⟩ := exists_of_bind returned
  obtain ⟨body, isBody, returned⟩ := exists_of_bind returned
  obtain ⟨rule, -, returned⟩ := exists_of_bind returned
  obtain ⟨shape, -, returned⟩ := exists_of_bind returned
  cases eq_of_pure returned
  intro json isJson
  cases isJson
  obtain ⟨member, listed, shown, isPresent, isRead⟩ := nesting.exists_of_optionalField isBody
  exact nesting.json (nesting.record holds isGiven member listed) isPresent isRead

/-- The body of a query is good at the depth below that of the query. -/
theorem query_of_read {query : Query} (holds : Holds (depth + 1) value)
    (returned : Returns (Query.read value) query) : ∀ json ∈ query.body, Good depth json := by
  obtain ⟨given, isGiven, returned⟩ := exists_of_bind returned
  obtain ⟨name, -, returned⟩ := exists_of_bind returned
  obtain ⟨method, -, returned⟩ := exists_of_bind returned
  obtain ⟨endpoint, -, returned⟩ := exists_of_bind returned
  obtain ⟨query, -, returned⟩ := exists_of_bind returned
  obtain ⟨headers, -, returned⟩ := exists_of_bind returned
  obtain ⟨body, isBody, returned⟩ := exists_of_bind returned
  obtain ⟨rule, -, returned⟩ := exists_of_bind returned
  obtain ⟨shape, -, returned⟩ := exists_of_bind returned
  cases eq_of_pure returned
  intro json isJson
  cases isJson
  obtain ⟨member, listed, shown, isPresent, isRead⟩ := nesting.exists_of_optionalField isBody
  exact nesting.json (nesting.record holds isGiven member listed) isPresent isRead

variable [LawfulMonad μ]

/-- The bodies of a market are good three levels below the market. -/
theorem market_of_read {market : Market} (holds : Holds (depth + 3) value)
    (returned : Returns (Market.read value) market) :
    ∀ query ∈ market.queries, ∀ json ∈ query.body, Good depth json := by
  obtain ⟨given, isGiven, returned⟩ := exists_of_bind returned
  obtain ⟨id, -, returned⟩ := exists_of_bind returned
  obtain ⟨question, -, returned⟩ := exists_of_bind returned
  obtain ⟨resolution, -, returned⟩ := exists_of_bind returned
  obtain ⟨queries, areQueries, returned⟩ := exists_of_bind returned
  obtain ⟨defaults, -, returned⟩ := exists_of_bind returned
  cases eq_of_pure returned
  intro query listed
  obtain ⟨member, isMember, isRead⟩ := nesting.exists_of_requiredField areQueries
  obtain ⟨found, isFound, one⟩ := exists_of_list isRead
  obtain ⟨element, isElement, isRead⟩ := one query listed
  exact nesting.query_of_read depth
    (nesting.elements (nesting.record holds isGiven member isMember) isFound element isElement)
    isRead

/-- The bodies and the defaults of a template are good three levels below the template. -/
theorem template_of_read {template : Template} (holds : Holds (depth + 3) value)
    (returned : Returns (Template.read value) template) :
    (∀ entry ∈ template.schema.entries, ∀ json ∈ entry.2.fallback, Good depth json) ∧
      ∀ source ∈ template.sources, ∀ json ∈ source.body, Good depth json := by
  obtain ⟨given, isGiven, returned⟩ := exists_of_bind returned
  obtain ⟨id, -, returned⟩ := exists_of_bind returned
  obtain ⟨name, -, returned⟩ := exists_of_bind returned
  obtain ⟨description, -, returned⟩ := exists_of_bind returned
  obtain ⟨category, -, returned⟩ := exists_of_bind returned
  obtain ⟨image, -, returned⟩ := exists_of_bind returned
  obtain ⟨schema, isSchema, returned⟩ := exists_of_bind returned
  obtain ⟨question, -, returned⟩ := exists_of_bind returned
  obtain ⟨resolution, -, returned⟩ := exists_of_bind returned
  obtain ⟨sources, areSources, returned⟩ := exists_of_bind returned
  obtain ⟨defaults, -, returned⟩ := exists_of_bind returned
  cases eq_of_pure returned
  have inside := nesting.record holds isGiven
  constructor
  · intro entry listed
    rcases nesting.exists_of_defaultedField isSchema with rfl | ⟨member, isMember, isRead⟩
    · cases listed
    · obtain ⟨found, isFound, one⟩ := exists_of_dict isRead
      obtain ⟨variableMember, isVariable, isRead⟩ := one entry listed
      exact nesting.fallback_of_read depth
        (nesting.members (inside member isMember) isFound variableMember isVariable) isRead
  · intro source listed
    obtain ⟨member, isMember, isRead⟩ := nesting.exists_of_requiredField areSources
    obtain ⟨found, isFound, one⟩ := exists_of_list isRead
    obtain ⟨element, isElement, isRead⟩ := one source listed
    exact nesting.body_of_read depth
      (nesting.elements (inside member isMember) isFound element isElement) isRead

end Nesting

end Records

end PredictionMarket
