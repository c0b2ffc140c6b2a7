import Mathlib.Data.List.Infix
import PredictionMarket.Proofs.Rendering.Exactness

/-!
# Finding placeholders

A scan looks for placeholders from left to right and goes on behind each one that it finds. What
it goes over is inside a placeholder, where none can begin, so it finds each placeholder of a text
where it stands (`mem_scanFrom_iff`), and the names that it lists are those that are found by
looking at every position (`map_scanFrom`). The token that strict rendering reports is the first
one that such a scan comes to.
-/

namespace PredictionMarket

open Placeholder

/-- A placeholder stands in a text at a position: the token of a name that is not empty and holds
no brace. -/
def OccursAt (name : String) (text : List Char) (position : Nat) : Prop :=
  name ≠ "" ∧ BraceFree name.toList ∧ StandsAt name text position

namespace OccursAt

variable {name other : String} {text : List Char}

/-- A text begins with a placeholder that is found there. -/
theorem zero_iff {shown : List Char} :
    OccursAt (String.ofList shown) text 0 ↔ nameAt? text = some shown := by
  rw [nameAt?_eq_some_iff, OccursAt, StandsAt, String.toList_ofList, List.drop_zero, ne_eq, ne_eq,
    ← String.toList_eq_nil_iff, String.toList_ofList]

/-- Nothing stands in an empty text. -/
theorem not_nil {position : Nat} : ¬ OccursAt name [] position := by
  rintro ⟨-, -, stands⟩
  rw [StandsAt, List.drop_nil] at stands
  exact absurd (List.prefix_nil.1 stands) (by simp [token])

/-- Two placeholders of a text are the same one, or one of them ends before the other begins. -/
theorem same_or_apart {first second : Nat} (occurs : OccursAt name text first)
    (otherOccurs : OccursAt other text second) :
    (first = second ∧ name = other) ∨ first + (token name.toList).length ≤ second ∨
      second + (token other.toList).length ≤ first :=
  StandsAt.same_or_apart occurs.2.1 otherOccurs.2.1 occurs.2.2 otherOccurs.2.2

end OccursAt

namespace Placeholder

/-- Scans a text for placeholders, after as many characters as are to be skipped, and lists each
with its position. The scan goes on behind a placeholder that it has found. -/
def scanFrom : Nat → Nat → List Char → List (Nat × String)
  | _, _, [] => []
  | position, skip + 1, _ :: rest => scanFrom (position + 1) skip rest
  | position, 0, c :: rest =>
    match nameAt? (c :: rest) with
    | some name =>
      (position, String.ofList name) :: scanFrom (position + 1) (name.length + 3) rest
    | none => scanFrom (position + 1) 0 rest

/-- The placeholders that a scan of a text finds, with their positions. -/
def scan (text : String) : List (Nat × String) := scanFrom 0 0 text.toList

/-- The token that a search for placeholders comes to first. -/
def firstToken? (text : List Char) : Option String :=
  (text.tails.findSome? nameAt?).map fun name => String.ofList (token name)

/-- A scan finds the placeholders behind the characters that it skips, and no others. -/
theorem mem_scanFrom_iff {position skip place : Nat} {text : List Char} {name : String} :
    (place, name) ∈ scanFrom position skip text ↔
      ∃ offset, skip ≤ offset ∧ place = position + offset ∧ OccursAt name text offset := by
  fun_induction scanFrom position skip text with
  | case1 =>
    refine iff_of_false List.not_mem_nil ?_
    rintro ⟨offset, -, -, occurs⟩
    exact OccursAt.not_nil occurs
  | case2 position skip c rest inductionHypothesis =>
    rw [inductionHypothesis]
    constructor
    · rintro ⟨offset, behind, rfl, occurs⟩
      exact ⟨offset + 1, by omega, by omega, occurs⟩
    · rintro ⟨offset, behind, rfl, occurs⟩
      obtain ⟨offset, rfl⟩ := Nat.exists_eq_add_one.2 (Nat.zero_lt_of_lt behind)
      exact ⟨offset, by omega, by omega, occurs⟩
  | case3 position c rest found isFound inductionHypothesis =>
    have first : OccursAt (String.ofList found) (c :: rest) 0 := OccursAt.zero_iff.2 isFound
    rw [List.mem_cons, inductionHypothesis, Prod.mk.injEq]
    constructor
    · rintro (⟨rfl, rfl⟩ | ⟨offset, -, rfl, occurs⟩)
      · exact ⟨0, le_rfl, rfl, first⟩
      · exact ⟨offset + 1, Nat.zero_le _, by omega, occurs⟩
    · rintro ⟨offset, -, rfl, occurs⟩
      -- What stands elsewhere begins behind the placeholder that was found.
      rcases first.same_or_apart occurs with ⟨rfl, rfl⟩ | apart | before
      · exact .inl ⟨rfl, rfl⟩
      · rw [String.toList_ofList, length_token] at apart
        obtain ⟨offset, rfl⟩ : ∃ later, offset = later + 1 :=
          Nat.exists_eq_add_one.2 (by omega)
        exact .inr ⟨offset, by omega, by omega, occurs⟩
      · rw [length_token] at before
        omega
  | case4 position c rest missed inductionHypothesis =>
    rw [inductionHypothesis]
    constructor
    · rintro ⟨offset, -, rfl, occurs⟩
      exact ⟨offset + 1, Nat.zero_le _, by omega, occurs⟩
    · rintro ⟨offset, -, rfl, occurs⟩
      cases offset with
      | zero =>
        rw [← String.ofList_toList (s := name), OccursAt.zero_iff, missed] at occurs
        cases occurs
      | succ offset => exact ⟨offset, Nat.zero_le _, by omega, occurs⟩

/-- A scan lists the names that are found by looking at every position. -/
theorem map_scanFrom (position skip : Nat) (text : List Char) :
    (scanFrom position skip text).map (·.2) = (names (text.drop skip)).map String.ofList := by
  fun_induction scanFrom position skip text with
  | case1 => rw [List.drop_nil]; rfl
  | case2 position skip c rest inductionHypothesis => exact inductionHypothesis
  | case3 position c rest name isFound inductionHypothesis =>
    obtain ⟨named, free, behind, split⟩ := nameAt?_eq_some_iff.1 isFound
    have skipped : rest.drop (name.length + 3) = behind := by
      rw [← List.drop_succ_cons (a := c), ← split,
        List.drop_left' (by rw [length_token])]
    have listed : names (c :: rest) = name :: names behind := by
      rw [← split, names_token_append free, tokenNames, if_neg named, List.singleton_append]
    rw [List.map_cons, inductionHypothesis, List.drop_zero, listed, skipped, List.map_cons]
  | case4 position c rest missed inductionHypothesis =>
    rw [inductionHypothesis, List.drop_zero, List.drop_zero, names_cons, missed]
    rfl

/-- A scan lists placeholders in the order in which they stand, each one behind the end of the
ones before it. -/
theorem pairwise_scanFrom (position skip : Nat) (text : List Char) :
    (scanFrom position skip text).Pairwise fun earlier later =>
      earlier.1 + (token earlier.2.toList).length ≤ later.1 := by
  fun_induction scanFrom position skip text with
  | case1 => exact .nil
  | case2 position skip c rest inductionHypothesis => exact inductionHypothesis
  | case3 position c rest name isFound inductionHypothesis =>
    refine .cons (fun later listed => ?_) inductionHypothesis
    obtain ⟨offset, behind, place, -⟩ := mem_scanFrom_iff.1 listed
    rw [String.toList_ofList, length_token, place]
    omega
  | case4 position c rest missed inductionHypothesis => exact inductionHypothesis

/-- The search for one placeholder finds the first one of a text. -/
theorem findSome?_tails (text : List Char) :
    text.tails.findSome? nameAt? = (names text).head? := by
  induction text with
  | nil => rfl
  | cons c rest inductionHypothesis =>
    rw [List.tails_cons, List.findSome?_cons, inductionHypothesis, names_cons]
    cases nameAt? (c :: rest) <;> rfl

/-- The first token of a text is that of its first placeholder. -/
theorem firstToken?_eq (text : String) :
    firstToken? text.toList =
      (namesOf text).head?.map fun name => String.ofList (token name.toList) := by
  rw [firstToken?, findSome?_tails, namesOf, List.head?_map, Option.map_map]
  refine congrArg (Option.map · _) (funext fun name => ?_)
  rw [Function.comp_apply, String.toList_ofList]

/-- No first token is found exactly when a text has no placeholders. -/
theorem firstToken?_eq_none_iff {text : String} :
    firstToken? text.toList = none ↔ namesOf text = [] := by
  rw [firstToken?_eq, Option.map_eq_none_iff, List.head?_eq_none_iff]

end Placeholder

/-- What is left unresolved in a cut text is the first token of the first stretch that has one. -/
theorem Cut.map_unresolved? (cut : Cut) :
    cut.unresolved?.map (fun name => String.ofList (token name)) =
      cut.stretches.findSome? firstToken? := by
  rw [unresolved?, List.map_findSome?]
  refine congrArg (List.findSome? · _) (funext fun stretch => ?_)
  rw [Function.comp_apply, firstToken?, findSome?_tails]

/-- The placeholders of a text are all found, each where it stands. A scan from left to right that
goes on behind each placeholder finds exactly those that occur in the text, in the order of their
positions, and none begins before the end of another one; their names are the names of the text.
The first token of a text is that of the first of them, and there is none when the text has no
names. Strict rendering reports the first token of the first stretch between slots that has one. -/
theorem names_are_those_that_occur (text : String) :
    (∀ position name, (position, name) ∈ scan text ↔ OccursAt name text.toList position) ∧
    (scan text).Pairwise (fun earlier later =>
      earlier.1 + (token earlier.2.toList).length ≤ later.1) ∧
    namesOf text = (scan text).map (·.2) ∧
    firstToken? text.toList =
      (scan text).head?.map (fun found => String.ofList (token found.2.toList)) ∧
    (firstToken? text.toList = none ↔ namesOf text = []) ∧
    ∀ cut : Cut, cut.unresolved?.map (fun name => String.ofList (token name)) =
      cut.stretches.findSome? firstToken? := by
  have listed : namesOf text = (scan text).map (·.2) :=
    (map_scanFrom 0 0 text.toList).symm
  refine ⟨fun position name => ?_, pairwise_scanFrom 0 0 text.toList, listed, ?_,
    firstToken?_eq_none_iff, Cut.map_unresolved?⟩
  · rw [scan, mem_scanFrom_iff]
    constructor
    · rintro ⟨offset, -, rfl, occurs⟩
      rwa [Nat.zero_add]
    · exact fun occurs => ⟨position, Nat.zero_le _, (Nat.zero_add _).symm, occurs⟩
  · rw [firstToken?_eq, listed, List.head?_map, Option.map_map]
    rfl

/-- Neither a brace in front of a placeholder nor one that is never closed hides it. -/
example : scan "\x7b\x7b\x7ba\x7d\x7d\x7d\x7b\x7bb\x7d\x7b\x7ba\x7d\x7d" = [(1, "a"), (11, "a")] := by
  decide +kernel

end PredictionMarket
