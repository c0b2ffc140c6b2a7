import PredictionMarket.Proofs.Binding.Tokens

/-!
# What a binding takes from its inputs

A binding is the computed tokens laid over the declared ones. Of the variables of a caller
it takes the texts of those declared variables that no computed token hides, the price and
the goal as amounts, the direction of the comparison and the proxy. Of the instant it takes
the seven time tokens. Inputs that agree in these make the same binding.
-/

namespace PredictionMarket

open Calendar (Instant)

namespace Binding

variable {instant : Instant} {schema : Schema} {values : Variables} {proxy : String}

/-- No computed token is listed twice. -/
theorem nodup_computedTokens :
    ((computedTokens instant schema values proxy).map (·.1)).Nodup := by
  have single : ∀ input token,
      ((groupedEntries schema values input token).map (·.1)).Sublist [token] := by
    intro input token
    unfold groupedEntries
    cases (declaredValue schema values input).bind Json.amount? <;> simp
  have sublist : ((computedTokens instant schema values proxy).map (·.1)).Sublist
      (Token.apiProxyPrefix :: [Token.priceFormatted] ++ [Token.goalFormatted] ++
        (comparisonTokens values).map (·.1) ++ (timeTokens instant).map (·.1)) := by
    simp only [computedTokens, List.map_append, List.map_cons]
    exact ((((single _ _).cons_cons _).append (single _ _)).append_right _).append_right _
  refine sublist.nodup ?_
  -- The names do not depend on the variables, so the list of them can be decided.
  change [Token.apiProxyPrefix, Token.priceFormatted, Token.goalFormatted, Token.comparisonOp,
    Token.comparisonType, Token.attestationTime, Token.attestationTimeUnix,
    Token.attestationTimeUnixMs, Token.attestationWindowStartUnix, Token.attestationTimeDate,
    Token.attestationTimeFormatted, Token.matchDateFormatted].Nodup
  decide

/-- No declared variable is listed twice. -/
theorem nodup_declaredTokens : ((declaredTokens schema values).map (·.1)).Nodup := by
  have sublist : ((declaredTokens schema values).map (·.1)).Sublist schema.keys := by
    unfold declaredTokens
    induction schema.keys with
    | nil => exact List.Sublist.slnil
    | cons name rest inductionHypothesis =>
      rw [List.filterMap_cons]
      cases (declaredValue schema values name).bind Json.plainText? with
      | none => exact inductionHypothesis.cons name
      | some text => exact inductionHypothesis.cons_cons name
  exact sublist.nodup schema.nodup_keys

/-- What is found under a declared name among the declared tokens is its text. -/
theorem lookupEntry_declaredTokens {name : String} :
    Dict.lookupEntry name (declaredTokens schema values).reverse =
      if name ∈ schema.keys then (declaredValue schema values name).bind Json.plainText?
      else none := by
  rw [Dict.lookupEntry_reverse nodup_declaredTokens]
  refine Option.ext fun text => ?_
  rw [Dict.lookupEntry_eq_some_iff nodup_declaredTokens, mem_declaredTokens]
  by_cases declared : name ∈ schema.keys <;> simp [declared]

/-- A token is looked up among the computed ones first and then among the declared ones. -/
theorem find?_atInstant {name : String} :
    (atInstant instant schema values proxy).find? name =
      (Dict.lookupEntry name (computedTokens instant schema values proxy).reverse).or
        (if name ∈ schema.keys then (declaredValue schema values name).bind Json.plainText?
        else none) := by
  rw [atInstant, Dict.find?_ofList, List.reverse_append,
    Dict.lookupEntry_append, lookupEntry_declaredTokens]

/-- A computed token has its computed text, whether or not a variable of its name is
declared. -/
theorem find?_of_computed {name text : String}
    (listed : (name, text) ∈ computedTokens instant schema values proxy) :
    (atInstant instant schema values proxy).find? name = some text := by
  have found : Dict.lookupEntry name (computedTokens instant schema values proxy).reverse =
      some text := by
    rw [Dict.lookupEntry_reverse nodup_computedTokens,
      Dict.lookupEntry_eq_some_iff nodup_computedTokens]
    exact listed
  rw [find?_atInstant, found, Option.some_or]

/-- A name that is not computed has the text of the declared variable of that name, if there
is one. -/
theorem find?_of_not_computed {name : String}
    (free : name ∉ (computedTokens instant schema values proxy).map (·.1)) :
    (atInstant instant schema values proxy).find? name =
      if name ∈ schema.keys then (declaredValue schema values name).bind Json.plainText?
      else none := by
  have absent : Dict.lookupEntry name (computedTokens instant schema values proxy).reverse =
      none := by
    rw [← Option.not_isSome_iff_eq_none, Dict.isSome_lookupEntry, List.map_reverse,
      List.mem_reverse]
    exact free
  rw [find?_atInstant, absent, Option.none_or]

/-- A time token has the text that belongs to the instant, whatever the variables are. -/
theorem find?_timeToken {name text : String} (listed : (name, text) ∈ timeTokens instant) :
    (atInstant instant schema values proxy).find? name = some text :=
  find?_of_computed (List.mem_append_right _ listed)

/-- Variables agree for a schema when a binding takes the same from both. -/
structure Agree (schema : Schema) (left right : Variables) : Prop where
  /-- Declared variables that no computed token hides have the same text. -/
  text : ∀ name ∈ schema.keys, name ∉ Token.unconditional →
    (declaredValue schema left name).bind Json.plainText? =
      (declaredValue schema right name).bind Json.plainText?
  price : (declaredValue schema left "price").bind Json.amount? =
    (declaredValue schema right "price").bind Json.amount?
  goal : (declaredValue schema left "goal").bind Json.amount? =
    (declaredValue schema right "goal").bind Json.amount?
  direction : direction left = direction right
  proxy : ∀ proxy, proxyToken left proxy = proxyToken right proxy

/-- Variables that agree make the same binding at instants with the same time tokens. -/
theorem atInstant_congr {first second : Instant} {left right : Variables}
    (times : timeTokens first = timeTokens second) (agree : Agree schema left right)
    (proxy : String) :
    atInstant first schema left proxy = atInstant second schema right proxy := by
  have computed : computedTokens first schema left proxy =
      computedTokens second schema right proxy := by
    simp only [computedTokens, groupedEntries, comparisonTokens, agree.price, agree.goal,
      agree.direction, agree.proxy, times]
  refine Dict.eq_of_find?_eq fun name => ?_
  by_cases isComputed : name ∈ (computedTokens second schema right proxy).map (·.1)
  · obtain ⟨⟨_, text⟩, listed, rfl⟩ := List.mem_map.1 isComputed
    rw [find?_of_computed listed, find?_of_computed (computed ▸ listed)]
  · rw [find?_of_not_computed isComputed, find?_of_not_computed (computed ▸ isComputed)]
    by_cases declared : name ∈ schema.keys
    · rw [agree.text name declared fun always =>
        isComputed (mem_map_computedTokens.2 (.inl always))]
    · rw [if_neg declared, if_neg declared]

/-- Of variables that agree the same grouped numbers cannot be written. -/
theorem formatFault?_congr {left right : Variables} (agree : Agree schema left right) :
    formatFault? schema left = formatFault? schema right := by
  simp only [formatFault?, groupedFault?, agree.price, agree.goal]

/-- Variables that agree make the same binding, or fail alike, when their attestation values denote
instants with the same time tokens. -/
theorem make_congr_of_times {first second : Instant} {left right : Variables}
    (firstParsed : attestationInstant (left.find? Token.attestationTime) = .ok first)
    (secondParsed : attestationInstant (right.find? Token.attestationTime) = .ok second)
    (times : timeTokens first = timeTokens second) (agree : Agree schema left right)
    (proxy : String) : make schema left proxy = make schema right proxy := by
  rw [make_of_parsed firstParsed, make_of_parsed secondParsed, formatFault?_congr agree,
    atInstant_congr times agree proxy]

/-- Variables that agree, with attestation values that are read alike, have the same binding
or the same fault. -/
theorem make_congr {left right : Variables}
    (sameTime : attestationInstant (left.find? Token.attestationTime) =
      attestationInstant (right.find? Token.attestationTime))
    (agree : Agree schema left right) (proxy : String) :
    make schema left proxy = make schema right proxy := by
  cases parsed : attestationInstant (right.find? Token.attestationTime) with
  | error fault => rw [make_of_fault parsed, make_of_fault (sameTime.trans parsed)]
  | ok instant => exact make_congr_of_times (sameTime.trans parsed) parsed rfl agree proxy

/-- Variables with the same value of a name have the same declared value of it. -/
theorem declaredValue_congr {left right : Variables} {name : String}
    (same : left.find? name = right.find? name) :
    declaredValue schema left name = declaredValue schema right name := by
  rw [declaredValue, declaredValue, given, given, same]

/-- Variables that differ in the attestation value alone agree. -/
theorem Agree.of_find?_eq {left right : Variables}
    (same : ∀ name, name ≠ Token.attestationTime → left.find? name = right.find? name) :
    Agree schema left right where
  text name _ free := by
    rw [declaredValue_congr (same name fun isTime => free (isTime ▸ by decide))]
  price := by rw [declaredValue_congr (same "price" (by decide))]
  goal := by rw [declaredValue_congr (same "goal" (by decide))]
  direction := by rw [Binding.direction, Binding.direction, same Token.comparisonType (by decide)]
  proxy proxy := by rw [proxyToken, proxyToken, same Token.apiProxyPrefix (by decide)]

end Binding

end PredictionMarket
