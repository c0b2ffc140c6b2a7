import PredictionMarket.Catalog.Builtin
import PredictionMarket.Proofs.Binding.Agreement
import PredictionMarket.Proofs.Json.Amount

/-!
# Values and their own texts

A binding reads a variable in three ways: as a text, as an amount and as a direction. A
value and its plain text read the same in all three, so a caller may give either. Only the
attestation value and the proxy are read in other ways.
-/

namespace PredictionMarket

namespace Json

/-- Values that are read alike wherever a binding reads a declared variable. -/
structure Alike (left right : Json) : Prop where
  text : left.plainText? = right.plainText?
  amount : left.amount? = right.amount?

/-- Of two values that are read alike both are `null` or none is. -/
theorem Alike.isNull {left right : Json} (alike : Alike left right) :
    left.isNull = right.isNull := by
  have shown := left.isSome_plainText?
  rw [alike.text, right.isSome_plainText?] at shown
  exact (Bool.not_inj shown).symm

/-- The plain text of a value is read like the value. -/
theorem Alike.plainText {value : Json} {text : String}
    (shown : value.plainText? = some text) : Alike (string text) value where
  text := shown.symm
  amount := amount?_of_plainText? shown

end Json

namespace Binding

variable {schema : Schema} {values : Variables} {name : String} {value other : Json}

/-- What is read of the declared values stays the same when a value is replaced by another of
which the same is read. -/
theorem bind_declaredValue_insert {α : Type} {read : Json → Option α}
    (present : values.find? name = some value) (alike : Json.Alike other value)
    (sameRead : read other = read value) (queried : String) :
    (declaredValue schema (values.insert name other) queried).bind read =
      (declaredValue schema values queried).bind read := by
  by_cases here : queried = name
  · subst here
    have found : (values.insert queried other).find? queried = some other := by
      rw [Dict.find?_insert, if_pos rfl]
    rw [declaredValue, declaredValue, given, given, found, present, Option.filter_some,
      Option.filter_some, alike.isNull]
    cases value.isNull
    · exact sameRead
    · rfl
  · have untouched : (values.insert name other).find? queried = values.find? queried := by
      rw [Dict.find?_insert, if_neg here]
    rw [declaredValue_congr untouched]

/-- Variables agree when a value, other than the proxy, is replaced by one that is read
like it. -/
theorem Agree.insert_alike (present : values.find? name = some value)
    (alike : Json.Alike other value) (notProxy : name ≠ Token.apiProxyPrefix) :
    Agree schema (values.insert name other) values where
  text queried _ _ := bind_declaredValue_insert present alike alike.text queried
  price := bind_declaredValue_insert present alike alike.amount "price"
  goal := bind_declaredValue_insert present alike alike.amount "goal"
  direction := by
    rw [Binding.direction, Binding.direction, Dict.find?_insert]
    by_cases here : Token.comparisonType = name
    · subst here
      rw [if_pos rfl, present, Option.bind_some, Option.bind_some, alike.text]
    · rw [if_neg here]
  proxy address := by
    rw [proxyToken, proxyToken, Dict.find?_insert, if_neg fun here => notProxy here.symm]

/-- A value and its own text are interchangeable. Every value of a caller that is not
`null`, other than the attestation value and the proxy, has a text, and a binding comes out
the same when the text is given in its place. In particular each number is the amount that
its text denotes. -/
theorem make_insert_plainText (schema : Schema) (values : Variables) (proxy name : String)
    (value : Json) (present : values.find? name = some value) (notNull : value.isNull = false)
    (notTime : name ≠ Token.attestationTime) (notProxy : name ≠ Token.apiProxyPrefix) :
    (∃ text, value.plainText? = some text ∧
      make schema (values.insert name (.string text)) proxy = make schema values proxy) ∧
    ∀ number : Number, ∃ amount, (Json.number number).amount? = some amount ∧
      (Json.string number.plainText).amount? = some amount := by
  constructor
  · obtain ⟨text, shown⟩ : ∃ text, value.plainText? = some text := by
      rw [← Option.isSome_iff_exists, Json.isSome_plainText?, notNull]
      rfl
    have sameTime : (values.insert name (.string text)).find? Token.attestationTime =
        values.find? Token.attestationTime := by
      rw [Dict.find?_insert, if_neg fun here => notTime here.symm]
    exact ⟨text, shown, make_congr (congrArg attestationInstant sameTime)
      (.insert_alike present (.plainText shown) notProxy) proxy⟩
  · intro number
    obtain ⟨amount, isAmount⟩ := number.exists_toDouble?
    exact ⟨amount, isAmount, (Json.amount?_plainText number).trans isAmount⟩

/-- A price above the integers that binary64 holds exactly, at the first instant of
1970. -/
def widePriceValues : Variables :=
  Dict.ofList [
    ("attestationTime", .number (.integer ⟨0, by decide, by decide⟩)),
    ("price", .number (.integer ⟨9007199254740993, by decide, by decide⟩))]

/-- A price that is no binary64 value may be given as a text. -/
theorem make_insert_widePrice :
    widePriceValues.find? "price" =
      some (.number (.integer ⟨9007199254740993, by decide, by decide⟩)) ∧
    make Builtin.cryptoPrice.schema
        (widePriceValues.insert "price" (.string "9007199254740993")) "/proxy" =
      make Builtin.cryptoPrice.schema widePriceValues "/proxy" := by
  have present : widePriceValues.find? "price" =
      some (.number (.integer ⟨9007199254740993, by decide, by decide⟩)) := rfl
  obtain ⟨text, shown, same⟩ := (make_insert_plainText Builtin.cryptoPrice.schema
    widePriceValues "/proxy" "price" _ present rfl (by decide) (by decide)).1
  have digits : Number.plainText (.integer ⟨9007199254740993, by decide, by decide⟩) =
      "9007199254740993" := by decide +kernel
  rw [Json.plainText?, digits] at shown
  cases shown
  exact ⟨present, same⟩

end Binding

end PredictionMarket
