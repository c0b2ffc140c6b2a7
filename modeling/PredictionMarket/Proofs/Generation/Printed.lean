import PredictionMarket.Proofs.Catalog.Bodies
import PredictionMarket.Proofs.Generation.RoundTrip

/-!
# Printed markets

A market is printed with three containers around the body of a query, so a body from a catalog
file just fits the room that the JSON parser has (`readable_toJson`). What is read of the
printed text is the market, but for a body that is `null`: it is read as absent
(`withoutNullBodies`).
-/

namespace PredictionMarket

open Json (Readable readable_object_iff readable_array_iff readable_string readable_integer)

variable {room : Nat}

/-- A record is readable when the values of its fields are. -/
theorem Json.readable_written_iff {fields : List (String × Option Json)} :
    Readable (room + 1) (.object (written fields)) ↔
      ∀ field ∈ fields, ∀ value ∈ field.2, Readable room value := by
  rw [readable_object_iff]
  constructor
  · intro all field listed value given
    refine all (field.1, value) (List.mem_filterMap.2 ⟨field, listed, ?_⟩)
    rw [Option.mem_def.1 given, Option.map_some]
  · intro all member listed
    obtain ⟨field, isField, isMember⟩ := List.mem_filterMap.1 listed
    obtain ⟨value, given, rfl⟩ := Option.map_eq_some_iff.1 isMember
    exact all field isField value given

/-- A dictionary of texts is readable. -/
theorem Json.readable_ofTexts (texts : Dict String) : Readable (room + 1) (.ofTexts texts) := by
  refine readable_object_iff.2 fun member listed => ?_
  obtain ⟨entry, -, rfl⟩ := List.mem_map.1 listed
  exact readable_string entry.2

/-- An outcome is readable. -/
theorem Outcome.readable_toJson (outcome : Outcome) : Readable (room + 1) outcome.toJson := by
  rw [toJson_eq, Json.readable_written_iff]
  simp [entries, readable_string, Json.ofUInt32, readable_integer]

/-- Market defaults are readable. -/
theorem MarketDefaults.readable_toJson (defaults : MarketDefaults) :
    Readable (room + 3) defaults.toJson := by
  have outcomes : Readable (room + 2) (.array (defaults.outcomes.map Outcome.toJson)) := by
    refine readable_array_iff.2 fun element listed => ?_
    obtain ⟨outcome, -, rfl⟩ := List.mem_map.1 listed
    exact outcome.readable_toJson
  rw [toJson_eq, Json.readable_written_iff]
  simp [entries, outcomes, readable_string, Json.ofUInt8, readable_integer]

/-- A query is readable when its body is. -/
theorem Query.readable_toJson {query : Query}
    (body : ∀ json ∈ query.body, Readable (room + 1) json) :
    Readable (room + 2) query.toJson := by
  rw [toJson_eq, Json.readable_written_iff]
  simpa [entries, readable_string, Json.readable_ofTexts] using body

/-- A market is readable when its bodies are. -/
theorem Market.readable_toJson {market : Market}
    (bodies : ∀ query ∈ market.queries, ∀ json ∈ query.body, Readable (room + 1) json) :
    Readable (room + 4) market.toJson := by
  have queries : Readable (room + 3) (.array (market.queries.map Query.toJson)) := by
    refine readable_array_iff.2 fun element listed => ?_
    obtain ⟨query, isQuery, rfl⟩ := List.mem_map.1 listed
    exact Query.readable_toJson (bodies query isQuery)
  rw [toJson_eq, Json.readable_written_iff]
  simp [entries, queries, readable_string, MarketDefaults.readable_toJson]

namespace Query

variable {query : Query}

/-- A query without a body in the place of a body that is `null`. -/
def withoutNullBody (query : Query) : Query :=
  { query with body := query.body.filter fun body => !body.isNull }

/-- Nothing is left out of a query exactly when its body is not `null`. -/
theorem withoutNullBody_eq_iff : query.withoutNullBody = query ↔ query.body ≠ some .null := by
  have body : query.body.filter (fun body => !body.isNull) = query.body ↔
      query.body ≠ some .null := by
    cases query.body with
    | none => simp
    | some json => cases json <;> simp [Option.filter, Json.isNull]
  rw [← body]
  exact ⟨fun same => congrArg Query.body same, fun same => by rw [withoutNullBody, same]⟩

/-- A query whose body is in order is read without a body that is `null`. -/
theorem arranged_byName (inOrder : ∀ json ∈ query.body, json.normal = json) :
    query.arranged .byName = query.withoutNullBody := by
  have body : Arrangement.byName.given query.body =
      query.body.filter fun body => !body.isNull := by
    cases given : query.body with
    | none => rfl
    | some json =>
      exact congrArg (fun json => (some json).filter fun body => !body.isNull) (inOrder json given)
  rw [arranged, withoutNullBody, body]

end Query

namespace Market

variable {market : Market}

/-- A market without bodies in the place of bodies that are `null`. -/
def withoutNullBodies (market : Market) : Market :=
  { market with queries := market.queries.map Query.withoutNullBody }

/-- Nothing is left out of a market exactly when none of its bodies is `null`. -/
theorem withoutNullBodies_eq_iff :
    market.withoutNullBodies = market ↔ ∀ query ∈ market.queries, query.body ≠ some .null := by
  have queries : market.queries.map Query.withoutNullBody = market.queries ↔
      ∀ query ∈ market.queries, query.body ≠ some .null := by
    simp only [← Query.withoutNullBody_eq_iff]
    exact ⟨fun same => List.map_inj_left.1 (same.trans (List.map_id _).symm),
      fun all => (List.map_congr_left all).trans (List.map_id' _)⟩
  rw [← queries]
  exact ⟨fun same => congrArg Market.queries same, fun same => by rw [withoutNullBodies, same]⟩

/-- The binary64 values in the bodies of a market are read back. -/
def DoublesReadBack (market : Market) : Prop :=
  ∀ query ∈ market.queries, ∀ body ∈ query.body, ∀ value, .double value ∈ body.numbers →
    (Number.double value).ReadsBack

/-- A market whose bodies come from a catalog file, and whose binary64 values are read back, is
read from its printed text, but for bodies that are `null`. -/
theorem exists_read_printed
    (bodies : ∀ query ∈ market.queries, ∀ body ∈ query.body, body.InRoom bodyRoom)
    (doubles : market.DoublesReadBack) :
    ∃ json, Json.ofText? market.toJson.toIndentedText = some json ∧
      read json = some market.withoutNullBodies := by
  have readable : ∀ query ∈ market.queries, ∀ body ∈ query.body, Readable bodyRoom body := by
    refine fun query listed body given => ⟨(bodies query listed body given).fits, ?_⟩
    intro number inside
    cases number with
    | integer word => exact Json.readable_number_iff.1 (readable_integer word : Readable 0 _)
    | double value => exact doubles query listed body given value inside
  have fits : Readable Json.mostNested market.toJson := readable_toJson readable
  refine ⟨_, Json.ofText?_toIndentedText fits, (read_apply .byName market).trans ?_⟩
  have queries : market.queries.map (Query.arranged .byName) =
      market.queries.map Query.withoutNullBody :=
    List.map_congr_left fun query listed =>
      Query.arranged_byName fun json given => (bodies query listed json given).inOrder
  rw [arranged, withoutNullBodies, queries]

end Market

end PredictionMarket
