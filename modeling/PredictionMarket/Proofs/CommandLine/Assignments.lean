import PredictionMarket.Proofs.Binding.Documented
import PredictionMarket.Proofs.CommandLine.Generate
import PredictionMarket.Proofs.Json.Amount
import PredictionMarket.Proofs.Json.Notation

/-!
# Assigned values in the texts of a market

An assignment whose value is written as JSON writes a number gives that number, and every other
one gives a text. A market shows a text as it is and a number as a plain decimal, so what was
typed is shown unless it is a number that JSON and plain decimals write differently
(`assigned_value_is_shown`).
-/

namespace PredictionMarket

open Decimal (Double)
open Returning

/-- A text is split at its first equals sign. -/
theorem splitAssignment?_eq_some_iff {text key value : List Char} :
    splitAssignment? text = some (key, value) ↔ text = key ++ '=' :: value ∧ '=' ∉ key := by
  induction text generalizing key with
  | nil => simp [splitAssignment?]
  | cons c rest inductionHypothesis =>
    rw [splitAssignment?]
    by_cases equals : c = '='
    · rw [if_pos equals]
      cases key with
      | nil => simp [equals]
      | cons first front =>
        refine iff_of_false (by simp) fun ⟨shape, absent⟩ => absent ?_
        rw [List.cons_append, List.cons.injEq, equals] at shape
        exact List.mem_cons.2 (.inl shape.1)
    · rw [if_neg equals]
      cases key with
      | nil => simp [equals]
      | cons first front =>
        simp only [Option.map_eq_some_iff, Prod.exists, Prod.mk.injEq, List.cons.injEq,
          List.cons_append, List.mem_cons, not_or]
        constructor
        · rintro ⟨front, value, found, ⟨rfl, rfl⟩, rfl⟩
          obtain ⟨rfl, absent⟩ := inductionHypothesis.1 found
          exact ⟨⟨rfl, rfl⟩, Ne.symm equals, absent⟩
        · rintro ⟨⟨rfl, rfl⟩, -, absent⟩
          exact ⟨_, _, inductionHypothesis.2 ⟨rfl, absent⟩, ⟨rfl, rfl⟩, rfl⟩

/-- The parts of a text around its first equals sign are determined by the text. -/
theorem parts_eq_of_append_eq {front typed otherFront otherTyped : String}
    (absent : '=' ∉ front.toList) (otherAbsent : '=' ∉ otherFront.toList)
    (same : front ++ "=" ++ typed = otherFront ++ "=" ++ otherTyped) :
    front = otherFront ∧ typed = otherTyped := by
  have split : ∀ front typed : String, '=' ∉ front.toList →
      splitAssignment? (front ++ "=" ++ typed).toList = some (front.toList, typed.toList) :=
    fun _ _ absent => splitAssignment?_eq_some_iff.2 ⟨by simp, absent⟩
  have parts := split otherFront otherTyped otherAbsent
  rw [← same, split front typed absent, Option.some_inj, Prod.mk.injEq] at parts
  exact ⟨String.toList_inj.1 parts.1, String.toList_inj.1 parts.2⟩

/-- What an assignment gives is read of the text behind its first equals sign, and named by the
text before it. -/
theorem exists_of_readAssignment {assignment key : String} {value : Json}
    (accepted : readAssignment assignment = .ok (key, value)) :
    ∃ front typed : String, assignment = front ++ "=" ++ typed ∧ '=' ∉ front.toList ∧
      key.toList = Text.trim front.toList ∧ value = assignedValue typed := by
  unfold readAssignment at accepted
  cases split : splitAssignment? assignment.toList with
  | none =>
    rw [split] at accepted
    cases accepted
  | some parts =>
    obtain ⟨front, typed⟩ := parts
    obtain ⟨shape, absent⟩ := splitAssignment?_eq_some_iff.1 split
    rw [split] at accepted
    dsimp only at accepted
    split at accepted
    · cases accepted
    · cases accepted
      refine ⟨String.ofList front, String.ofList typed, String.toList_inj.1 ?_, ?_, ?_, rfl⟩
      · simp [shape]
      · rwa [String.toList_ofList]
      · rw [String.toList_ofList, String.toList_ofList]

/-- A value that is typed is a text, or else the number or truth value that JSON writes in the
same way. -/
theorem assignedValue_cases (typed : String) :
    assignedValue typed = .string typed ∨
      (∃ number, assignedValue typed = .number number ∧ number.text = typed.toList) ∨
      ∃ truth, assignedValue typed = .bool truth ∧ Json.literalText truth = typed.toList := by
  unfold assignedValue
  split
  · next number _ =>
    split
    · next same => exact .inr (.inl ⟨number, rfl, by rw [← same]; exact String.toList_ofList.symm⟩)
    · exact .inl rfl
  · next truth _ =>
    split
    · next same => exact .inr (.inr ⟨truth, rfl, by rw [← same]; exact String.toList_ofList.symm⟩)
    · exact .inl rfl
  · exact .inl rfl

/-- A value was typed as a number that is no integer, and JSON writes that number in another way
than plain decimals do: with a power of ten, with a fraction of zero, or with the other one of
two shortest decimals that are equally near. -/
def Respelt (typed : String) (value : Json) : Prop :=
  ∃ number : Double, value = .number (.double number) ∧
    ('e' ∈ typed.toList ∨ ['.', '0'] <:+ typed.toList ∨
      number.shortest .toEven ≠ number.shortest .up)

/-- A number that is no integer is respelt in one of the three ways. -/
theorem respelt_double_iff {typed : String} {number : Double} :
    Respelt typed (.number (.double number)) ↔
      'e' ∈ typed.toList ∨ ['.', '0'] <:+ typed.toList ∨
        number.shortest .toEven ≠ number.shortest .up := by
  constructor
  · rintro ⟨same, isNumber, respelt⟩
    cases isNumber
    exact respelt
  · exact fun respelt => ⟨number, rfl, respelt⟩

/-- Every value that is typed has a plain text, which is what was typed unless it is respelt. -/
theorem exists_plainText_assignedValue (typed : String) :
    ∃ shown, (assignedValue typed).plainText? = some shown ∧
      (shown = typed ↔ ¬ Respelt typed (assignedValue typed)) := by
  rcases assignedValue_cases typed with text | ⟨number, isNumber, same⟩ | ⟨truth, isTruth, same⟩
  · rw [text]
    refine ⟨typed, rfl, iff_of_true rfl ?_⟩
    rintro ⟨number, isNumber, -⟩
    cases isNumber
  · rw [isNumber]
    refine ⟨number.plainText, rfl, ?_⟩
    cases number with
    | integer word =>
      refine iff_of_true ?_ ?_
      · rw [← String.toList_inj, ← same]
        exact String.toList_ofList
      · rintro ⟨number, isNumber, -⟩
        cases isNumber
    | double value =>
      rw [← String.toList_inj, respelt_double_iff, not_or, not_or, not_ne_iff, ← same,
        Number.plainText, String.toList_ofList]
      exact value.plainText_eq_text_iff
  · rw [isTruth]
    refine ⟨_, rfl, iff_of_true ?_ ?_⟩
    · rw [← String.toList_inj, ← same]
      cases truth <;> rfl
    · rintro ⟨number, isNumber, -⟩
      cases isNumber

/-- The value of an assignment is collected when no later assignment has the same key. -/
theorem VariableSources.find?_collect {files : Files} {sources : VariableSources}
    {values : Variables} {assignment key : String} {value : Json} {earlier later : List String}
    (accepted : readAssignment assignment = .ok (key, value))
    (given : sources.assignments = earlier ++ assignment :: later)
    (last : ∀ other ∈ later, ∀ entry, readAssignment other = .ok entry → entry.1 ≠ key)
    (collected : sources.collect files = .ok values) : values.find? key = some value := by
  have returned : Returns (sources.collect files) values := collected
  rw [collect_eq, given, List.mapM_append, List.mapM_cons, accepted] at returned
  obtain ⟨fromFile, -, returned⟩ := exists_of_bind returned
  obtain ⟨fromJson, -, returned⟩ := exists_of_bind returned
  obtain ⟨assigned, isAssigned, returned⟩ := exists_of_bind returned
  cases eq_of_pure returned
  obtain ⟨before, -, isAssigned⟩ := exists_of_bind isAssigned
  obtain ⟨behind, isBehind, isAssigned⟩ := exists_of_bind isAssigned
  cases eq_of_pure isAssigned
  obtain ⟨first, isFirst, isBehind⟩ := exists_of_bind isBehind
  obtain ⟨others, isOthers, isBehind⟩ := exists_of_bind isBehind
  cases eq_of_pure isBehind
  cases Except.ok.inj isFirst
  rw [← List.append_assoc]
  refine Dict.find?_ofList_eq_some_iff.2 ⟨_, _, rfl, fun entry listed => ?_⟩
  obtain ⟨other, isOther, read⟩ := exists_of_mapM isOthers entry listed
  exact last other isOther entry read

/-- The text of a declared variable fills the slots of its name. -/
theorem Market.texts_of_declared {engine : PatternEngine} {catalog : Catalog}
    {options : GenerationOptions} {id : String} {values : Variables} {market : Market}
    {key shown : String}
    (generated : generate engine catalog options id values = .ok market)
    (bound : ∀ schema proxy binding, key ∈ schema.keys →
      Binding.make schema values proxy = .ok binding → binding.find? key = some shown) :
    ∃ template binding, catalog.find? id = some template ∧
      Binding.make template.schema values options.proxy = .ok binding ∧
      (key ∈ template.schema.keys → market.texts.map String.toList =
        template.fields.map fun field => (Cut.ofText binding.keys field.2.toList).fill fun name =>
          if name = key then shown.toList else binding.valueOf name) := by
  obtain ⟨template, instant, found, parsed, noFault, rfl⟩ := exists_of_generate generated
  have made : Binding.make template.schema values options.proxy = .ok _ :=
    Binding.make_of_writable parsed (fault?_eq_none_iff.1 noFault).1
  refine ⟨template, _, found, made, fun isDeclared => ?_⟩
  rw [texts_rendered, List.map_map]
  refine List.map_congr_left fun field _ => ?_
  rw [Function.comp_apply, Renderer.toList_apply]
  refine Cut.fill_congr _ fun slot _ => ?_
  split
  · next same =>
    rw [same, Binding.valueOf, bound _ _ _ isDeclared made]
    rfl
  · rfl

/-- What is typed is what is shown, unless it is respelt. The value of an assignment is read of
the text behind its first equals sign; its plain text is that text exactly when the value is not
respelt, and denotes the amount of the value in any case. The value is collected unless a later
assignment has the same key. For a declared variable other than the computed tokens the plain
text is bound, and it fills the slots of the variable in whatever is rendered of a template. -/
theorem assigned_value_is_shown (assignment key : String) (value : Json)
    (accepted : readAssignment assignment = .ok (key, value)) :
    ∃ front typed shown : String, assignment = front ++ "=" ++ typed ∧ '=' ∉ front.toList ∧
      key.toList = Text.trim front.toList ∧ value.plainText? = some shown ∧
      (shown = typed ↔ ¬ Respelt typed value) ∧ (Json.string shown).amount? = value.amount? ∧
      (∀ (files : Files) (sources : VariableSources) (values : Variables)
        (earlier later : List String), sources.assignments = earlier ++ assignment :: later →
          (∀ other ∈ later, ∀ entry, readAssignment other = .ok entry → entry.1 ≠ key) →
            sources.collect files = .ok values → values.find? key = some value) ∧
      ∀ values : Variables, values.find? key = some value → key ∉ Token.computed →
        (∀ schema proxy binding, key ∈ schema.keys →
          Binding.make schema values proxy = .ok binding → binding.find? key = some shown) ∧
        ∀ engine catalog options id market,
          Market.generate engine catalog options id values = .ok market →
          ∃ template binding, catalog.find? id = some template ∧
            Binding.make template.schema values options.proxy = .ok binding ∧
            (key ∈ template.schema.keys → market.texts.map String.toList =
              template.fields.map fun field =>
                (Cut.ofText binding.keys field.2.toList).fill fun name =>
                  if name = key then shown.toList else binding.valueOf name) := by
  obtain ⟨front, typed, shape, absent, isKey, rfl⟩ := exists_of_readAssignment accepted
  obtain ⟨shown, isShown, faithful⟩ := exists_plainText_assignedValue typed
  refine ⟨front, typed, shown, shape, absent, isKey, isShown, faithful,
    Json.amount?_of_plainText? isShown,
    fun files sources values earlier later => VariableSources.find?_collect accepted,
    fun values isGiven free => ?_⟩
  have bound : ∀ schema proxy binding, key ∈ schema.keys →
      Binding.make schema values proxy = .ok binding → binding.find? key = some shown := by
    intro schema proxy binding isDeclared made
    obtain ⟨instant, parsed, -, rfl⟩ := Binding.exists_of_make made
    exact Binding.find?_of_documented (regular_of_attestationInstant parsed)
      (Binding.documented_of_declared isDeclared free
        (.given isGiven (Json.isNull_of_plainText? isShown)) isShown)
  exact ⟨bound, fun engine catalog options id market generated =>
    Market.texts_of_declared generated bound⟩

/-- What an assignment gives is evaluated up to the plain text of the value. -/
theorem exists_value_of_evaluated {assignment key shown : String}
    (evaluated : (readAssignment assignment).toOption.map
      (fun entry => (entry.1, entry.2.plainText?)) = some (key, some shown)) :
    ∃ value, readAssignment assignment = .ok (key, value) ∧ value.plainText? = some shown := by
  cases read : readAssignment assignment with
  | error failure =>
    rw [read] at evaluated
    cases evaluated
  | ok entry =>
    rw [read] at evaluated
    obtain ⟨isKey, isShown⟩ := Prod.mk.inj (Option.some.inj evaluated)
    exact ⟨entry.2, by rw [← isKey], isShown⟩

/-- A price is assigned, and then the first instant of 1970. -/
def priceSources : VariableSources where
  file := none
  json := none
  assignments := [" price =0.25", "attestationTime=0"]

/-- A price at the first instant of 1970. -/
def priceValues (price : Json) : Variables :=
  Dict.ofList [("price", price), (Token.attestationTime, .ofUInt32 0)]

/-- The value of the price is collected as it is read. -/
theorem collect_priceSources {price : Json}
    (accepted : readAssignment " price =0.25" = .ok ("price", price)) :
    priceSources.collect (fun _ => .absent) = .ok (priceValues price) := by
  have assigned : priceSources.assignments.mapM readAssignment =
      .ok [("price", price), (Token.attestationTime, .ofUInt32 0)] := by
    rw [priceSources, List.mapM_cons, accepted, List.mapM_cons, CommandLine.readAssignment_first]
    rfl
  rw [VariableSources.collect_eq, assigned]
  rfl

/-- With a price at that instant a market is generated. -/
theorem exists_generate_priceValues (price : Json) :
    ∃ market, Market.generate .standard .builtin ⟨"/proxy", false⟩ Builtin.cryptoPrice.id
      (priceValues price) = .ok market := by
  have isInstant : (priceValues price).find? Token.attestationTime =
      some (.number (.integer ⟨0, by decide, by decide⟩)) := (Dict.find?_ofList _ _).trans rfl
  have parsed : attestationInstant ((priceValues price).find? Token.attestationTime) =
      .ok ⟨0, 0⟩ := (congrArg attestationInstant isInstant).trans rfl
  have found : Catalog.builtin.find? Builtin.cryptoPrice.id = some Builtin.cryptoPrice := rfl
  exact ⟨_, (Market.generate_of_ready found (by decide) parsed
    (PatternEngine.standard.admits_atInstant (by decide +kernel) _ _ _)).trans
      (Market.ofTemplate_lenient _ _)⟩

/-- A price with a fraction is collected as a number and shown as it was typed. -/
theorem typed_price_is_shown :
    ∃ price, readAssignment " price =0.25" = .ok ("price", price) ∧ ¬ Respelt "0.25" price ∧
      priceSources.collect (fun _ => .absent) = .ok (priceValues price) ∧
      ∃ binding market,
        Binding.make Builtin.cryptoPrice.schema (priceValues price) "/proxy" = .ok binding ∧
        binding.find? "price" = some "0.25" ∧
        Market.generate .standard .builtin ⟨"/proxy", false⟩ Builtin.cryptoPrice.id
          (priceValues price) = .ok market ∧
        market.texts.map String.toList = Builtin.cryptoPrice.fields.map fun field =>
          (Cut.ofText binding.keys field.2.toList).fill fun name =>
            if name = "price" then "0.25".toList else binding.valueOf name := by
  obtain ⟨price, accepted, isShown⟩ :
      ∃ price, readAssignment " price =0.25" = .ok ("price", price) ∧
        price.plainText? = some "0.25" := exists_value_of_evaluated (by decide +kernel)
  obtain ⟨front, typed, shown, shape, absent, -, same, faithful, -, collects, reaches⟩ :=
    assigned_value_is_shown _ _ _ accepted
  have parts : " price " ++ "=" ++ "0.25" = " price =0.25" := by decide
  have isTyped : "0.25" = typed :=
    (parts_eq_of_append_eq (by decide) absent (parts.trans shape)).2
  subst isTyped
  cases isShown.symm.trans same
  have collected := collect_priceSources accepted
  have isGiven : (priceValues price).find? "price" = some price := by
    refine collects _ priceSources _ [] ["attestationTime=0"] rfl ?_ collected
    intro other isOther entry read
    rw [List.mem_singleton.1 isOther, CommandLine.readAssignment_first] at read
    cases read
    decide
  obtain ⟨binds, fills⟩ := reaches _ isGiven (by decide)
  obtain ⟨market, generated⟩ := exists_generate_priceValues price
  obtain ⟨template, binding, isFound, made, texts⟩ := fills _ _ _ _ _ generated
  have found : Catalog.builtin.find? Builtin.cryptoPrice.id = some Builtin.cryptoPrice := rfl
  obtain rfl := Option.some.inj (found.symm.trans isFound)
  have isDeclared : "price" ∈ Builtin.cryptoPrice.schema.keys := by decide +kernel
  exact ⟨price, accepted, faithful.1 rfl, collected, binding, market, made,
    binds _ _ _ isDeclared made, generated, texts isDeclared⟩

/-- An integer with a fraction of zero, a power of ten, and one of two shortest decimals that are
equally near are kept as numbers, and shown otherwise than they were typed. -/
theorem typed_numbers_are_respelt :
    (∃ value, readAssignment "price=1.0" = .ok ("price", value) ∧
      value.plainText? = some "1" ∧ "1" ≠ "1.0") ∧
    (∃ value, readAssignment "price=1e+16" = .ok ("price", value) ∧
      value.plainText? = some "10000000000000000" ∧ "10000000000000000" ≠ "1e+16") ∧
    ∃ value, readAssignment "price=68719476736.01562" = .ok ("price", value) ∧
      value.plainText? = some "68719476736.01563" ∧ "68719476736.01563" ≠ "68719476736.01562" := by
  obtain ⟨whole, wholeAccepted, wholeShown⟩ :
      ∃ value, readAssignment "price=1.0" = .ok ("price", value) ∧
        value.plainText? = some "1" := exists_value_of_evaluated (by decide +kernel)
  obtain ⟨power, powerAccepted, powerShown⟩ :
      ∃ value, readAssignment "price=1e+16" = .ok ("price", value) ∧
        value.plainText? = some "10000000000000000" :=
    exists_value_of_evaluated (by decide +kernel)
  obtain ⟨tie, tieAccepted, tieShown⟩ :
      ∃ value, readAssignment "price=68719476736.01562" = .ok ("price", value) ∧
        value.plainText? = some "68719476736.01563" :=
    exists_value_of_evaluated (by decide +kernel)
  exact ⟨⟨whole, wholeAccepted, wholeShown, by decide⟩,
    ⟨power, powerAccepted, powerShown, by decide⟩, tie, tieAccepted, tieShown, by decide⟩

end PredictionMarket
