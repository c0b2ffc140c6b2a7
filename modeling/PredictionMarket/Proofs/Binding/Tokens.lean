import Mathlib.Data.List.Perm.Subperm
import Mathlib.Tactic.Tauto
import PredictionMarket.Binding
import PredictionMarket.PatternEngine
import PredictionMarket.Proofs.Dictionary
import PredictionMarket.Proofs.Failure
import PredictionMarket.Proofs.Rendering.Placeholder

/-!
# Which tokens a binding has

A binding exists when the attestation value denotes an instant and no grouped number has more
places than can be written. It binds the declared variables that have a text, ten computed tokens
in any case, and the grouped price and goal when these are amounts; nothing else. Computed tokens
have no braces in their names, so a binding has none in its keys when the declared names have none;
and when the declared names are few and short, every engine compiles the pattern of its keys.
-/

namespace PredictionMarket

open Calendar (Instant)
open Placeholder (BraceFree)

/-- A value has a text unless it is `null`. -/
theorem Json.isSome_plainText? (value : Json) : value.plainText?.isSome = !value.isNull := by
  cases value <;> rfl

/-- A value that has a text is not `null`. -/
theorem Json.isNull_of_plainText? {value : Json} {text : String}
    (shown : value.plainText? = some text) : value.isNull = false := by
  cases value with
  | null => cases shown
  | _ => rfl

namespace Token

/-- The computed tokens that every binding has. -/
def unconditional : List String := [
  apiProxyPrefix, comparisonOp, comparisonType, attestationTime, attestationTimeUnix,
  attestationTimeUnixMs, attestationWindowStartUnix, attestationTimeDate,
  attestationTimeFormatted, matchDateFormatted]

/-- A token is computed when every binding has it, or when it is a grouped number. -/
theorem mem_computed_iff {name : String} :
    name ∈ computed ↔ name ∈ unconditional ∨ name = priceFormatted ∨ name = goalFormatted := by
  have parts : computed.Perm (unconditional ++ [priceFormatted, goalFormatted]) := by
    decide +kernel
  rw [parts.mem_iff]
  simp

/-- No brace stands in the name of a computed token. -/
theorem braceFree_of_mem_computed {name : String} (isComputed : name ∈ computed) :
    BraceFree name.toList := by
  have all : ∀ name ∈ computed, BraceFree name.toList := by decide +kernel
  exact all name isComputed

end Token

/-- The variables that are shown as grouped numbers, with their tokens. -/
def groupedVariables : List (String × String) :=
  [("price", Token.priceFormatted), ("goal", Token.goalFormatted)]

/-- The grouped numbers are the price and the goal. -/
theorem mem_groupedVariables {input token : String} :
    (input, token) ∈ groupedVariables ↔
      input = "price" ∧ token = Token.priceFormatted ∨
        input = "goal" ∧ token = Token.goalFormatted := by
  simp [groupedVariables]

/-- The grouped numbers have no more places than a number can be written with. -/
def Schema.PlacesFit (schema : Schema) : Prop :=
  ∀ pair ∈ groupedVariables, Binding.places schema pair.1 ≤ Decimal.mostPlaces

instance (schema : Schema) : Decidable schema.PlacesFit :=
  inferInstanceAs (Decidable (∀ pair ∈ groupedVariables,
    Binding.places schema pair.1 ≤ Decimal.mostPlaces))

namespace Binding

open Failure (settle settle_bind settle_map settle_eq_ok_iff)

section Grouped

variable {schema : Schema} {values : Variables} {name : String}

/-- The grouped form of a variable under a token, as far as it can be written. -/
def groupedEntries (schema : Schema) (values : Variables) (name token : String) :
    List (String × String) :=
  match (declaredValue schema values name).bind Json.amount? with
  | some amount => [(token, String.ofList (amount.grouped (places schema name)))]
  | none => []

/-- Why the grouped form of a variable cannot be written: it is an amount and has too many
places. -/
def groupedFault? (schema : Schema) (values : Variables) (name : String) : Option Failure :=
  if ((declaredValue schema values name).bind Json.amount?).isSome ∧
      Decimal.mostPlaces < places schema name then some (.tooManyPlaces (places schema name))
  else none

/-- A grouped form is written unless it has too many places. -/
theorem groupedToken_eq (schema : Schema) (values : Variables) (name token : String) :
    groupedToken schema values name token =
      settle (groupedFault? schema values name) (groupedEntries schema values name token) := by
  unfold groupedToken groupedFault? groupedEntries groupedText
  cases (declaredValue schema values name).bind Json.amount? with
  | none => rfl
  | some amount =>
    by_cases fits : places schema name ≤ Decimal.mostPlaces
    · simp [fits, settle, Nat.not_lt.2 fits]
    · simp [fits, settle, Nat.lt_of_not_le fits]

/-- Nothing is in the way of a grouped form with few places. -/
theorem groupedFault?_of_le (few : places schema name ≤ Decimal.mostPlaces) :
    groupedFault? schema values name = none :=
  if_neg fun wide => Nat.not_lt.2 few wide.2

/-- Why the grouped price or the grouped goal cannot be written; that of the price counts first. -/
def formatFault? (schema : Schema) (values : Variables) : Option Failure :=
  (groupedFault? schema values "price").or (groupedFault? schema values "goal")

/-- Nothing is in the way of the grouped numbers when their places can be written. -/
theorem formatFault?_of_fits (fits : schema.PlacesFit) : formatFault? schema values = none := by
  rw [formatFault?, groupedFault?_of_le (fits ("price", Token.priceFormatted) (by decide)),
    groupedFault?_of_le (fits ("goal", Token.goalFormatted) (by decide))]
  rfl

/-- Only too many places are in the way of the grouped numbers. -/
theorem tooManyPlaces_of_formatFault? {failure : Failure}
    (fails : formatFault? schema values = some failure) :
    ∃ places, failure = .tooManyPlaces places := by
  have one : ∀ {name}, groupedFault? schema values name = some failure →
      ∃ places, failure = .tooManyPlaces places := fun fails =>
    ⟨_, (Option.some.inj (Option.ite_none_right_eq_some.1 fails).2).symm⟩
  rcases Option.or_eq_some_iff.1 fails with price | ⟨-, goal⟩
  · exact one price
  · exact one goal

end Grouped

/-- The tokens that prevail over declared variables of the same name. -/
def computedTokens (instant : Instant) (schema : Schema) (values : Variables)
    (proxy : String) : List (String × String) :=
  proxyToken values proxy ::
    groupedEntries schema values "price" Token.priceFormatted ++
    groupedEntries schema values "goal" Token.goalFormatted ++
    comparisonTokens values ++
    timeTokens instant

/-- The binding at an instant, as far as its grouped numbers can be written. -/
def atInstant (instant : Instant) (schema : Schema) (values : Variables) (proxy : String) :
    Binding :=
  Dict.ofList (declaredTokens schema values ++ computedTokens instant schema values proxy)

variable {instant : Instant} {schema : Schema} {values : Variables} {proxy : String}

/-- What a caller gives is a value that is not `null`. -/
theorem given_eq_some_iff {name : String} {value : Json} :
    given values name = some value ↔ values.find? name = some value ∧ value.isNull = false := by
  rw [given, Option.filter_eq_some_iff, Bool.not_eq_true']

/-- A caller gives nothing when there is no value, or `null`. -/
theorem given_eq_none_iff {name : String} :
    given values name = none ↔
      ∀ value, values.find? name = some value → value.isNull = true := by
  rw [given, Option.filter_eq_none_iff]
  simp

/-- The tokens of a binding are the declared ones and then the computed ones, unless a grouped
number cannot be written. -/
theorem tokensAt_eq :
    tokensAt instant schema values proxy =
      settle (formatFault? schema values)
        (declaredTokens schema values ++ computedTokens instant schema values proxy) := by
  rw [tokensAt, groupedToken_eq, groupedToken_eq]
  simp only [settle_map, settle_bind]
  simp [formatFault?, computedTokens]

/-- When the attestation value denotes an instant, the binding is the one at that instant, unless
a grouped number cannot be written. -/
theorem make_of_parsed
    (parsed : attestationInstant (values.find? Token.attestationTime) = .ok instant) :
    make schema values proxy =
      settle (formatFault? schema values) (atInstant instant schema values proxy) := by
  rw [make, parsed]
  dsimp only
  rw [tokensAt_eq]
  exact settle_map _ _ _

/-- When the grouped numbers can be written, too, there is a binding. -/
theorem make_of_writable
    (parsed : attestationInstant (values.find? Token.attestationTime) = .ok instant)
    (writable : formatFault? schema values = none) :
    make schema values proxy = .ok (atInstant instant schema values proxy) := by
  rw [make_of_parsed parsed, writable]
  rfl

/-- The grouped numbers can be written when they have not too many places. -/
theorem make_of_fits (fits : schema.PlacesFit)
    (parsed : attestationInstant (values.find? Token.attestationTime) = .ok instant) :
    make schema values proxy = .ok (atInstant instant schema values proxy) :=
  make_of_writable parsed (formatFault?_of_fits fits)

/-- When the attestation value denotes no instant, there is no binding. -/
theorem make_of_fault {fault : AttestationFault}
    (faulty : attestationInstant (values.find? Token.attestationTime) = .error fault) :
    make schema values proxy = .error (.invalidAttestation fault) := by
  rw [make, faulty]

/-- A binding is the one at the instant that the attestation value denotes. -/
theorem exists_of_make {binding : Binding} (made : make schema values proxy = .ok binding) :
    ∃ instant, attestationInstant (values.find? Token.attestationTime) = .ok instant ∧
      formatFault? schema values = none ∧ binding = atInstant instant schema values proxy := by
  cases parsed : attestationInstant (values.find? Token.attestationTime) with
  | error fault =>
    rw [make_of_fault parsed] at made
    cases made
  | ok instant =>
    rw [make_of_parsed parsed, settle_eq_ok_iff] at made
    exact ⟨instant, rfl, made.1, made.2.symm⟩

/-- A declared variable is listed once, under its text. -/
theorem mem_declaredTokens {name text : String} :
    (name, text) ∈ declaredTokens schema values ↔
      name ∈ schema.keys ∧ (declaredValue schema values name).bind Json.plainText? = some text := by
  simp only [declaredTokens, List.mem_filterMap, Option.map_eq_some_iff]
  constructor
  · rintro ⟨declared, isDeclared, shown, hasText, same⟩
    cases same
    exact ⟨isDeclared, hasText⟩
  · rintro ⟨isDeclared, hasText⟩
    exact ⟨name, isDeclared, text, hasText, rfl⟩

/-- The declared tokens are the declared names whose value has a text. -/
theorem mem_map_declaredTokens {name : String} :
    name ∈ (declaredTokens schema values).map (·.1) ↔
      name ∈ schema.keys ∧
        ((declaredValue schema values name).bind Json.plainText?).isSome = true := by
  rw [List.mem_map, Option.isSome_iff_exists]
  constructor
  · rintro ⟨⟨_, text⟩, listed, rfl⟩
    obtain ⟨isDeclared, hasText⟩ := mem_declaredTokens.1 listed
    exact ⟨isDeclared, text, hasText⟩
  · rintro ⟨isDeclared, text, hasText⟩
    exact ⟨(name, text), mem_declaredTokens.2 ⟨isDeclared, hasText⟩, rfl⟩

/-- A grouped token is there when its variable is an amount. -/
theorem mem_map_groupedEntries {input token name : String} :
    name ∈ (groupedEntries schema values input token).map (·.1) ↔
      name = token ∧ ((declaredValue schema values input).bind Json.amount?).isSome = true := by
  unfold groupedEntries
  cases (declaredValue schema values input).bind Json.amount? <;> simp

/-- The computed tokens are the ten that every binding has, and the grouped price and goal when
these are amounts. -/
theorem mem_map_computedTokens {name : String} :
    name ∈ (computedTokens instant schema values proxy).map (·.1) ↔
      name ∈ Token.unconditional ∨
      (name = Token.priceFormatted ∧
        ((declaredValue schema values "price").bind Json.amount?).isSome = true) ∨
      (name = Token.goalFormatted ∧
        ((declaredValue schema values "goal").bind Json.amount?).isSome = true) := by
  have parts : Token.unconditional = (proxyToken values proxy).1 ::
      (comparisonTokens values).map (·.1) ++ (timeTokens instant).map (·.1) := rfl
  rw [parts]
  simp only [computedTokens, List.map_append, List.map_cons, List.cons_append, List.mem_append,
    List.mem_cons, mem_map_groupedEntries]
  tauto

/-- The tokens of a binding. -/
theorem contains_atInstant {name : String} :
    (atInstant instant schema values proxy).contains name = true ↔
      (name ∈ schema.keys ∧
        ((declaredValue schema values name).bind Json.plainText?).isSome = true) ∨
      name ∈ Token.unconditional ∨
      (name = Token.priceFormatted ∧
        ((declaredValue schema values "price").bind Json.amount?).isSome = true) ∨
      (name = Token.goalFormatted ∧
        ((declaredValue schema values "goal").bind Json.amount?).isSome = true) := by
  rw [atInstant, Dict.contains_ofList, List.map_append, List.mem_append,
    mem_map_declaredTokens, mem_map_computedTokens]

/-- A bound token is declared or computed. -/
theorem mem_schema_or_computed {name : String}
    (bound : name ∈ (atInstant instant schema values proxy).keys) :
    name ∈ schema.keys ∨ name ∈ Token.computed := by
  rw [← Dict.contains_iff, contains_atInstant] at bound
  rw [Token.mem_computed_iff]
  rcases bound with ⟨declared, -⟩ | always | ⟨price, -⟩ | ⟨goal, -⟩
  · exact .inl declared
  · exact .inr (.inl always)
  · exact .inr (.inr (.inl price))
  · exact .inr (.inr (.inr goal))

/-- When no brace stands in a declared name, none stands in a key of the binding. -/
theorem keys_braceFree (schemaFree : ∀ name ∈ schema.keys, BraceFree name.toList) :
    ∀ key ∈ (atInstant instant schema values proxy).keys, BraceFree key.toList := by
  intro key bound
  rcases mem_schema_or_computed bound with declared | isComputed
  · exact schemaFree key declared
  · exact Token.braceFree_of_mem_computed isComputed

end Binding

/-- Some of the keys take no more bytes than all of them. -/
theorem alternationSize_le_of_subset {keys all : List String} (distinct : keys.Nodup)
    (known : keys ⊆ all) : alternationSize keys ≤ alternationSize all := by
  obtain ⟨same, perm, sublist⟩ := List.subperm_of_subset distinct known
  rw [← alternationSize_of_perm perm]
  exact alternationSize_le_of_sublist sublist

/-- Every engine admits a binding when the declared and the computed tokens are short. -/
theorem PatternEngine.admits_atInstant (engine : PatternEngine) {schema : Schema}
    (ample : alternationSize (schema.keys ++ Token.computed) ≤ ampleSize)
    (instant : Calendar.Instant) (values : Variables) (proxy : String) :
    engine.admits (Binding.atInstant instant schema values proxy) = true := by
  have known : (Binding.atInstant instant schema values proxy).keys ⊆
      schema.keys ++ Token.computed :=
    fun _ bound => List.mem_append.2 (Binding.mem_schema_or_computed bound)
  rw [admits, Bool.or_eq_true]
  exact .inr (engine.compiles_of_ample _
    (Nat.le_trans (alternationSize_le_of_subset (Dict.nodup_keys _) known) ample))

end PredictionMarket
