import PredictionMarket.Catalog.Builtin
import PredictionMarket.Proofs.Binding.TimeTokens
import PredictionMarket.Proofs.Calendar.Shown

/-!
# The documented tokens

Rules say which text stands under which name. Ten tokens are computed always, those of the time
from what a clock in UTC or in Shanghai shows; the grouped price and goal are computed when these
are numeric, and every other text is that of a declared variable. A binding has the texts of the
rules and no others, whatever names the schema declares.
-/

namespace PredictionMarket

open Calendar (Instant Civil figures shortMonth monthInWords)

namespace Binding

section Rules

variable (instant : Instant) (schema : Schema) (values : Variables) (proxy name : String)

/-- The value that is in use for a variable. -/
inductive InUse : Json → Prop where
  /-- A value of the caller that is not `null` is in use. -/
  | given {value : Json} (isGiven : values.find? name = some value)
      (notNull : value.isNull = false) : InUse value
  /-- Without one the default of the schema is in use. -/
  | fallback {declared : Variable} {value : Json}
      (notGiven : ∀ other, values.find? name = some other → other.isNull = true)
      (isDeclared : schema.find? name = some declared)
      (hasDefault : declared.fallback = some value) : InUse value

/-- The direction that is in use: the text of a value of the caller that is not `null`. -/
def directionInUse : String :=
  ((given values Token.comparisonType).bind Json.plainText?).getD "above"

/-- The proxy that is in use: a text of the caller, or else the proxy of the deployment. -/
def proxyInUse : String :=
  match values.find? Token.apiProxyPrefix with
  | some (.string address) => address
  | _ => proxy

/-- The places that are in use for a grouped number: those that are declared for it, or
three. -/
def placesInUse : Nat :=
  match (schema.find? name).bind Variable.decimals with
  | some places => places.toNat
  | none => 3

/-- The texts of the tokens, rule by rule. -/
inductive Documented : String → String → Prop where
  /-- The minute in UTC, as in `Feb 20, 2025 12:00`. -/
  | attestationTime {civil : Civil} (shown : instant.Shows 0 civil) :
      Documented Token.attestationTime
        (s!"{civil.date.inWords (shortMonth civil.date.month)} " ++
          s!"{figures 2 civil.hour}:{figures 2 civil.minute}")
  | attestationTimeUnix : Documented Token.attestationTimeUnix (toString instant.seconds)
  | attestationTimeUnixMs :
      Documented Token.attestationTimeUnixMs (toString (1000 * instant.seconds))
  | attestationWindowStartUnix :
      Documented Token.attestationWindowStartUnix (toString (instant.seconds - 3600))
  /-- The date in UTC, as in `2025-02-20`. -/
  | attestationTimeDate {civil : Civil} (shown : instant.Shows 0 civil) :
      Documented Token.attestationTimeDate civil.date.inFigures
  /-- The second in Shanghai, eight hours ahead, as in `2025-02-20 20:00:00`. -/
  | attestationTimeFormatted {civil : Civil} (shown : instant.Shows 28800 civil) :
      Documented Token.attestationTimeFormatted
        (s!"{civil.date.inFigures} " ++
          s!"{figures 2 civil.hour}:{figures 2 civil.minute}:{figures 2 civil.second}")
  /-- The second in UTC, as in `February 20, 2025 12:00:00`. -/
  | matchDateFormatted {civil : Civil} (shown : instant.Shows 0 civil) :
      Documented Token.matchDateFormatted
        (s!"{civil.date.inWords (monthInWords civil.date.month)} " ++
          s!"{figures 2 civil.hour}:{figures 2 civil.minute}:{figures 2 civil.second}")
  | comparisonType : Documented Token.comparisonType (directionInUse values)
  | comparisonOp :
      Documented Token.comparisonOp (if directionInUse values = "below" then "<" else ">=")
  | apiProxyPrefix : Documented Token.apiProxyPrefix (proxyInUse values proxy)
  /-- A price or a goal has a grouped form when the value in use is numeric. -/
  | grouped {input token : String} {value : Json} {amount : Decimal.Double}
      (isGrouped : (input, token) ∈ groupedVariables) (inUse : InUse schema values input value)
      (numeric : value.amount? = some amount) :
      Documented token (String.ofList (amount.grouped (placesInUse schema input)))
  /-- A declared variable stands under its name unless a computed token does. -/
  | declared {name text : String} {value : Json} (isDeclared : name ∈ schema.keys)
      (notAlways : name ∉ Token.unconditional)
      (notGrouped : ∀ input, (input, name) ∈ groupedVariables →
        ∀ other, InUse schema values input other → other.amount? = none)
      (inUse : InUse schema values name value) (shown : value.plainText? = some text) :
      Documented name text

end Rules

variable {instant : Instant} {schema : Schema} {values : Variables} {proxy name : String}

/-- The declared value is the one in use. -/
theorem declaredValue_eq_some_iff {value : Json} :
    declaredValue schema values name = some value ↔ InUse schema values name value := by
  rw [declaredValue, Option.or_eq_some_iff, given_eq_some_iff, given_eq_none_iff,
    Option.bind_eq_some_iff]
  constructor
  · rintro (⟨isGiven, notNull⟩ | ⟨notGiven, declared, isDeclared, hasDefault⟩)
    · exact .given isGiven notNull
    · exact .fallback notGiven isDeclared hasDefault
  · rintro (⟨isGiven, notNull⟩ | ⟨notGiven, isDeclared, hasDefault⟩)
    · exact .inl ⟨isGiven, notNull⟩
    · exact .inr ⟨notGiven, _, isDeclared, hasDefault⟩

/-- What is read of the declared value is read of the value in use. -/
theorem bind_declaredValue_eq_some_iff {α : Type} {read : Json → Option α} {result : α} :
    (declaredValue schema values name).bind read = some result ↔
      ∃ value, InUse schema values name value ∧ read value = some result := by
  simp only [Option.bind_eq_some_iff, declaredValue_eq_some_iff]

/-- Nothing is read of the declared value when nothing is read of the value in use. -/
theorem bind_declaredValue_eq_none_iff {α : Type} {read : Json → Option α} :
    (declaredValue schema values name).bind read = none ↔
      ∀ value, InUse schema values name value → read value = none := by
  simp only [Option.bind_eq_none_iff, declaredValue_eq_some_iff]

/-- The direction is the one in use: `null` has no text. -/
theorem direction_eq : direction values = directionInUse values := by
  unfold direction directionInUse given
  cases values.find? Token.comparisonType with
  | none => rfl
  | some value => cases value <;> rfl

/-- The proxy is the one in use. -/
theorem proxyToken_eq :
    proxyToken values proxy = (Token.apiProxyPrefix, proxyInUse values proxy) := by
  unfold proxyToken proxyInUse
  cases values.find? Token.apiProxyPrefix with
  | none => rfl
  | some value => cases value <;> rfl

/-- The places of a grouped number are those in use. -/
theorem places_eq : places schema name = placesInUse schema name := by
  unfold places placesInUse
  cases (schema.find? name).bind Variable.decimals <;> rfl

/-- A grouped token has the grouped form of the value in use. -/
theorem mem_groupedEntries {input token text : String} :
    (name, text) ∈ groupedEntries schema values input token ↔
      name = token ∧ ∃ value, InUse schema values input value ∧ ∃ amount,
        value.amount? = some amount ∧
          text = String.ofList (amount.grouped (placesInUse schema input)) := by
  unfold groupedEntries
  rw [places_eq]
  constructor
  · intro listed
    split at listed
    next amount isAmount =>
      obtain ⟨value, inUse, numeric⟩ := bind_declaredValue_eq_some_iff.1 isAmount
      cases List.mem_singleton.1 listed
      exact ⟨rfl, value, inUse, amount, numeric, rfl⟩
    next => cases listed
  · rintro ⟨rfl, value, inUse, amount, numeric, rfl⟩
    rw [bind_declaredValue_eq_some_iff.2 ⟨value, inUse, numeric⟩]
    exact List.mem_singleton.2 rfl

/-- The computed tokens are those of the proxy, the comparison and the time, and the grouped
ones. -/
theorem mem_computedTokens {entry : String × String} :
    entry ∈ computedTokens instant schema values proxy ↔
      entry = proxyToken values proxy ∨ entry ∈ comparisonTokens values ∨
        entry ∈ timeTokens instant ∨
        ∃ pair ∈ groupedVariables, entry ∈ groupedEntries schema values pair.1 pair.2 := by
  simp only [computedTokens, groupedVariables, List.cons_append, List.mem_cons, List.mem_append,
    List.not_mem_nil, or_false, exists_eq_or_imp, exists_eq_left]
  tauto

/-- The computed tokens have the texts of the rules. -/
theorem documented_of_computed (regular : instant.Regular) {text : String}
    (listed : (name, text) ∈ computedTokens instant schema values proxy) :
    Documented instant schema values proxy name text := by
  have utc := regular.shows_civil 0
  have shanghai := regular.shows_civil 28800
  rcases mem_computedTokens.1 listed with isProxy | comparison | time | ⟨pair, isGrouped, listed⟩
  · cases isProxy.trans proxyToken_eq
    exact .apiProxyPrefix
  · simp only [comparisonTokens, comparisonOperator, direction_eq, List.mem_cons, Prod.mk.injEq,
      List.not_mem_nil, or_false] at comparison
    rcases comparison with ⟨rfl, rfl⟩ | ⟨rfl, rfl⟩
    · exact .comparisonOp
    · exact .comparisonType
  · simp only [timeTokens, secondsText_eq_toString, priceWindow, Int.mul_comm _ 1000,
      List.mem_cons, Prod.mk.injEq, List.not_mem_nil, or_false] at time
    rcases time with ⟨rfl, rfl⟩ | ⟨rfl, rfl⟩ | ⟨rfl, rfl⟩ | ⟨rfl, rfl⟩ | ⟨rfl, rfl⟩ | ⟨rfl, rfl⟩ |
      ⟨rfl, rfl⟩
    · rw [utc.displayText_eq regular]
      exact .attestationTime utc
    · exact .attestationTimeUnix
    · exact .attestationTimeUnixMs
    · exact .attestationWindowStartUnix
    · rw [utc.dateText_eq regular]
      exact .attestationTimeDate utc
    · rw [shanghai.shanghaiText_eq regular]
      exact .attestationTimeFormatted shanghai
    · rw [utc.longText_eq regular]
      exact .matchDateFormatted utc
  · obtain ⟨rfl, value, inUse, amount, numeric, rfl⟩ := mem_groupedEntries.1 listed
    exact .grouped isGrouped inUse numeric

/-- No computed token has a name when it is neither one of the ten nor that of a grouped
number. -/
theorem not_mem_map_computedTokens_iff :
    name ∉ (computedTokens instant schema values proxy).map (·.1) ↔
      name ∉ Token.unconditional ∧ ∀ input, (input, name) ∈ groupedVariables →
        ∀ value, InUse schema values input value → value.amount? = none := by
  rw [mem_map_computedTokens]
  constructor
  · intro free
    refine ⟨fun always => free (.inl always), fun input isGrouped => ?_⟩
    refine bind_declaredValue_eq_none_iff.1 (Option.not_isSome_iff_eq_none.1 fun isAmount => ?_)
    rcases mem_groupedVariables.1 isGrouped with ⟨rfl, isPrice⟩ | ⟨rfl, isGoal⟩
    · exact free (.inr (.inl ⟨isPrice, isAmount⟩))
    · exact free (.inr (.inr ⟨isGoal, isAmount⟩))
  · rintro ⟨notAlways, notGrouped⟩ (always | ⟨rfl, isAmount⟩ | ⟨rfl, isAmount⟩)
    · exact notAlways always
    · rw [bind_declaredValue_eq_none_iff.2 (notGrouped "price" (by decide))] at isAmount
      cases isAmount
    · rw [bind_declaredValue_eq_none_iff.2 (notGrouped "goal" (by decide))] at isAmount
      cases isAmount

/-- What is found in a binding follows from a rule. -/
theorem documented_of_find? (regular : instant.Regular) {text : String}
    (found : (atInstant instant schema values proxy).find? name = some text) :
    Documented instant schema values proxy name text := by
  -- A computed token hides a declared variable of its name, so it is looked at first.
  by_cases isComputed : name ∈ (computedTokens instant schema values proxy).map (·.1)
  · obtain ⟨⟨_, shown⟩, listed, rfl⟩ := List.mem_map.1 isComputed
    cases found.symm.trans (find?_of_computed listed)
    exact documented_of_computed regular listed
  · rw [find?_of_not_computed isComputed, Option.ite_none_right_eq_some] at found
    obtain ⟨isDeclared, hasText⟩ := found
    obtain ⟨value, inUse, shown⟩ := bind_declaredValue_eq_some_iff.1 hasText
    obtain ⟨notAlways, notGrouped⟩ := not_mem_map_computedTokens_iff.1 isComputed
    exact .declared isDeclared notAlways notGrouped inUse shown

/-- What follows from a rule is found in a binding. -/
theorem find?_of_documented (regular : instant.Regular) {text : String}
    (rule : Documented instant schema values proxy name text) :
    (atInstant instant schema values proxy).find? name = some text := by
  have computed : ∀ {name text}, (name, text) = proxyToken values proxy ∨
      (name, text) ∈ comparisonTokens values ∨ (name, text) ∈ timeTokens instant ∨
      (∃ pair ∈ groupedVariables, (name, text) ∈ groupedEntries schema values pair.1 pair.2) →
      (atInstant instant schema values proxy).find? name = some text := fun listed =>
    find?_of_computed (mem_computedTokens.2 listed)
  cases rule with
  | attestationTime shown =>
    rw [← shown.displayText_eq regular]
    exact find?_timeToken (by simp [timeTokens])
  | attestationTimeUnix =>
    exact find?_timeToken (by simp [timeTokens, secondsText_eq_toString])
  | attestationTimeUnixMs =>
    exact find?_timeToken (by simp [timeTokens, secondsText_eq_toString, Int.mul_comm])
  | attestationWindowStartUnix =>
    exact find?_timeToken (by simp [timeTokens, secondsText_eq_toString, priceWindow])
  | attestationTimeDate shown =>
    rw [← shown.dateText_eq regular]
    exact find?_timeToken (by simp [timeTokens])
  | attestationTimeFormatted shown =>
    rw [← shown.shanghaiText_eq regular]
    exact find?_timeToken (by simp [timeTokens])
  | matchDateFormatted shown =>
    rw [← shown.longText_eq regular]
    exact find?_timeToken (by simp [timeTokens])
  | comparisonType => exact computed (.inr (.inl (by simp [comparisonTokens, direction_eq])))
  | comparisonOp =>
    exact computed (.inr (.inl (by simp [comparisonTokens, comparisonOperator, direction_eq])))
  | apiProxyPrefix => exact computed (.inl proxyToken_eq.symm)
  | grouped isGrouped inUse numeric =>
    exact computed (.inr (.inr (.inr ⟨_, isGrouped,
      mem_groupedEntries.2 ⟨rfl, _, inUse, _, numeric, rfl⟩⟩)))
  | declared isDeclared notAlways notGrouped inUse shown =>
    rw [find?_of_not_computed (not_mem_map_computedTokens_iff.2 ⟨notAlways, notGrouped⟩),
      if_pos isDeclared]
    exact bind_declaredValue_eq_some_iff.2 ⟨_, inUse, shown⟩

/-- A declared variable that has not the name of a computed token stands under its own name. -/
theorem documented_of_declared {value : Json} {text : String} (isDeclared : name ∈ schema.keys)
    (free : name ∉ Token.computed) (inUse : InUse schema values name value)
    (shown : value.plainText? = some text) :
    Documented instant schema values proxy name text := by
  rw [Token.mem_computed_iff, not_or, not_or] at free
  obtain ⟨notAlways, notPrice, notGoal⟩ := free
  refine .declared isDeclared notAlways (fun other isToken => ?_) inUse shown
  rcases mem_groupedVariables.1 isToken with ⟨-, isPrice⟩ | ⟨-, isGoal⟩
  · exact absurd isPrice notPrice
  · exact absurd isGoal notGoal

/-- A binding is exactly what is documented. For every schema whose grouped numbers have not too
many places, all variables and every proxy: when the attestation value denotes an instant there is
a binding, and under every name it has the text of the rule for that name, and no text when there
is no rule. -/
theorem make_binds_documented_tokens (schema : Schema) (values : Variables) (proxy : String)
    (instant : Instant) (fits : schema.PlacesFit)
    (parsed : attestationInstant (values.find? Token.attestationTime) = .ok instant) :
    ∃ binding, make schema values proxy = .ok binding ∧
      ∀ name text, binding.find? name = some text ↔
        Documented instant schema values proxy name text :=
  have regular := regular_of_attestationInstant parsed
  ⟨_, make_of_fits fits parsed,
    fun _ _ => ⟨documented_of_find? regular, find?_of_documented regular⟩⟩

/-- A schema in which the direction, the proxy and the grouped price are declared, each with a
default. -/
def collidingSchema : Schema :=
  Dict.ofList [
    ("price", { Builtin.number "Price" 2 with fallback := some (.string "5") }),
    ("priceFormatted", { Builtin.text "Price" with fallback := some (.string "unpriced") }),
    ("comparisonType", Builtin.select "Direction" "below" [("below", "Below")]),
    ("apiProxyPrefix", { Builtin.text "Proxy" with fallback := some (.string "/declared") })]

/-- A price in words, a proxy that is no text and no direction, on an evening in UTC. -/
def collidingValues : Variables :=
  Dict.ofList [
    ("attestationTime", .string "2025-02-05T20:07:03Z"),
    ("price", .string "five"),
    ("apiProxyPrefix", .bool true),
    ("comparisonType", .null)]

/-- The evening is the one that is meant. -/
theorem attestationInstant_collidingValues :
    attestationInstant (collidingValues.find? Token.attestationTime) = .ok ⟨1738786023, 0⟩ := by
  have read : Instant.ofText? (Text.trim "2025-02-05T20:07:03Z".toList) =
      some ⟨1738786023, 0⟩ := by decide +kernel
  change attestationInstant (some (.string "2025-02-05T20:07:03Z")) = _
  rw [attestationInstant, read]
  rfl

/-- The declared direction and proxy are hidden. The declared grouped price is not: the price of
the caller is not numeric, and its default does not step in. In Shanghai it is the next day. -/
theorem make_binds_colliding_tokens :
    ∃ binding, make collidingSchema collidingValues "/proxy" = .ok binding ∧
      binding.find? Token.comparisonType = some "above" ∧
      binding.find? Token.comparisonOp = some ">=" ∧
      binding.find? Token.apiProxyPrefix = some "/proxy" ∧
      binding.find? Token.priceFormatted = some "unpriced" ∧
      binding.find? Token.attestationTime = some "Feb 5, 2025 20:07" ∧
      binding.find? Token.attestationTimeDate = some "2025-02-05" ∧
      binding.find? Token.attestationTimeFormatted = some "2025-02-06 04:07:03" ∧
      binding.find? Token.matchDateFormatted = some "February 5, 2025 20:07:03" := by
  obtain ⟨binding, made, documented⟩ := make_binds_documented_tokens collidingSchema
    collidingValues "/proxy" ⟨1738786023, 0⟩ (by decide) attestationInstant_collidingValues
  -- The price of the caller is in use although it is in words; its default is not.
  have inWords : ∀ other, InUse collidingSchema collidingValues "price" other →
      other.amount? = none := by
    have noNumber : (Json.string "five").amount?.isSome = false := by decide +kernel
    have isGiven : collidingValues.find? "price" = some (.string "five") := rfl
    intro other inUse
    rw [← declaredValue_eq_some_iff, declaredValue, given, isGiven] at inUse
    cases inUse
    exact Option.not_isSome_iff_eq_none.1 (by rw [noNumber]; decide)
  have unpriced : Documented ⟨1738786023, 0⟩ collidingSchema collidingValues "/proxy"
      Token.priceFormatted "unpriced" := by
    refine .declared (by decide) (by decide) (fun input isGrouped => ?_) (.fallback
      (fun other isGiven => ?_) rfl rfl) rfl
    · rcases mem_groupedVariables.1 isGrouped with ⟨rfl, -⟩ | ⟨-, isGoal⟩
      · exact inWords
      · exact absurd isGoal (by decide)
    · cases (rfl : collidingValues.find? Token.priceFormatted = none).symm.trans isGiven
  have utc : Instant.Shows ⟨1738786023, 0⟩ 0 ⟨⟨2025, 2, 5⟩, 20, 7, 3⟩ :=
    ⟨by decide, by decide, by decide, 3, by decide, by decide, by decide +kernel⟩
  have shanghai : Instant.Shows ⟨1738786023, 0⟩ 28800 ⟨⟨2025, 2, 6⟩, 4, 7, 3⟩ :=
    ⟨by decide, by decide, by decide, 3, by decide, by decide, by decide +kernel⟩
  exact ⟨binding, made, (documented _ _).2 .comparisonType, (documented _ _).2 .comparisonOp,
    (documented _ _).2 .apiProxyPrefix, (documented _ _).2 unpriced,
    (documented _ _).2 (.attestationTime utc), (documented _ _).2 (.attestationTimeDate utc),
    (documented _ _).2 (.attestationTimeFormatted shanghai),
    (documented _ _).2 (.matchDateFormatted utc)⟩

end Binding

end PredictionMarket
