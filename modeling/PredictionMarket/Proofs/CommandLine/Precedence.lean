import Mathlib.Data.List.Forall2
import PredictionMarket.Proofs.CommandLine.Assignments

/-!
# Precedence of the sources of variables

Variables are read from a file, then from an argument, then from assignments. When all of them can
be read, what a later source gives under a key replaces what an earlier one gave, and an assignment
replaces an earlier assignment of the same key (`Provides`). Otherwise the first source that cannot
be read decides the failure, and what follows it is not looked at (`FirstFault`).
-/

namespace PredictionMarket

open Returning

section Reading

variable {α β ε : Type} {read : α → Except ε β} {inputs : List α}

/-- All inputs are read exactly when each of them is. -/
theorem mapM_eq_ok_iff {results : List β} :
    inputs.mapM read = .ok results ↔
      List.Forall₂ (fun input result => read input = .ok result) inputs results := by
  induction inputs generalizing results with
  | nil => exact ⟨fun done => Except.ok.inj done ▸ .nil, fun done => by cases done; rfl⟩
  | cons input rest inductionHypothesis =>
    rw [List.mapM_cons]
    constructor
    · intro done
      have returned : Returns (read input >>= fun result =>
          rest.mapM read >>= fun later => pure (result :: later)) results := done
      obtain ⟨result, isRead, returned⟩ := exists_of_bind returned
      obtain ⟨later, areRead, returned⟩ := exists_of_bind returned
      cases eq_of_pure returned
      exact .cons isRead (inductionHypothesis.1 areRead)
    · rintro (_ | ⟨isRead, areRead⟩)
      rw [isRead, inductionHypothesis.2 areRead]
      rfl

/-- Reading fails as it does for the first input, or for the others when the first one is read. -/
theorem mapM_cons_eq_error_iff {first : α} {rest : List α} {failure : ε} :
    (first :: rest).mapM read = .error failure ↔ read first = .error failure ∨
      (∃ result, read first = .ok result) ∧ rest.mapM read = .error failure := by
  rw [List.mapM_cons]
  cases read first with
  | error cause =>
    constructor
    · rintro ⟨⟩
      exact .inl rfl
    · rintro (⟨⟨⟩⟩ | ⟨⟨result, ⟨⟩⟩, -⟩)
      rfl
  | ok result =>
    have behind : (do
        let result ← Except.ok result
        let results ← rest.mapM read
        pure (result :: results)) = .error failure ↔ rest.mapM read = .error failure := by
      cases rest.mapM read with
      | error cause => exact Iff.rfl
      | ok results => exact iff_of_false nofun nofun
    rw [behind]
    exact ⟨fun fails => .inr ⟨⟨result, rfl⟩, fails⟩, fun fails => (fails.resolve_left nofun).2⟩

/-- Reading fails as it does for the first input that is not read. -/
theorem mapM_eq_error_iff {failure : ε} :
    inputs.mapM read = .error failure ↔ ∃ earlier input later,
      inputs = earlier ++ input :: later ∧ (∀ other ∈ earlier, ∃ result, read other = .ok result) ∧
        read input = .error failure := by
  induction inputs with
  | nil => exact iff_of_false nofun (by simp)
  | cons first rest inductionHypothesis =>
    rw [mapM_cons_eq_error_iff, inductionHypothesis]
    constructor
    · rintro (fails | ⟨isRead, earlier, input, later, rfl, good, fails⟩)
      · exact ⟨[], first, rest, rfl, by simp, fails⟩
      · exact ⟨first :: earlier, input, later, rfl, List.forall_mem_cons.2 ⟨isRead, good⟩, fails⟩
    · rintro ⟨_ | ⟨other, earlier⟩, input, later, split, good, fails⟩
      · cases split
        exact .inl fails
      · cases split
        obtain ⟨isRead, good⟩ := List.forall_mem_cons.1 good
        exact .inr ⟨isRead, earlier, input, later, rfl, good, fails⟩

end Reading

/-- The value of a key that file, argument and assignments provide together. -/
inductive Provides (fromFile fromJson : Variables) (assigned : List (String × Json))
    (key : String) (value : Json) : Prop
  /-- The last assignment of the key counts before all else. -/
  | assignment (last : Dict.IsLast assigned key value)
  /-- Without an assignment the argument counts. -/
  | argument (unassigned : ∀ entry ∈ assigned, entry.1 ≠ key)
      (given : fromJson.find? key = some value)
  /-- Without either the file counts. -/
  | file (unassigned : ∀ entry ∈ assigned, entry.1 ≠ key) (absent : fromJson.find? key = none)
      (given : fromFile.find? key = some value)

namespace VariableSources

/-- The failure of the first source that cannot be read. -/
inductive FirstFault (files : Files) (sources : VariableSources) (failure : Failure) : Prop
  | file (fails : sources.fromFile files = .error failure)
  | argument {fromFile : Variables} (isFile : sources.fromFile files = .ok fromFile)
      (fails : sources.fromJson = .error failure)
  | assignment {fromFile fromJson : Variables} {earlier later : List String} {assignment : String}
      (isFile : sources.fromFile files = .ok fromFile) (isJson : sources.fromJson = .ok fromJson)
      (given : sources.assignments = earlier ++ assignment :: later)
      (good : ∀ other ∈ earlier, ∃ entry, readAssignment other = .ok entry)
      (fails : readAssignment assignment = .error failure)

variable {files : Files} {sources : VariableSources}

/-- When all sources are read, variables are collected, and each key has the value that the sources
provide. -/
theorem exists_collect_of_read {fromFile fromJson : Variables} {assigned : List (String × Json)}
    (isFile : sources.fromFile files = .ok fromFile) (isJson : sources.fromJson = .ok fromJson)
    (isAssigned : List.Forall₂ (fun assignment entry => readAssignment assignment = .ok entry)
      sources.assignments assigned) :
    ∃ values, sources.collect files = .ok values ∧
      ∀ key value, values.find? key = some value ↔
        Provides fromFile fromJson assigned key value := by
  refine ⟨Dict.ofList (fromFile.entries ++ fromJson.entries ++ assigned), ?_,
    fun key value => ?_⟩
  · rw [collect_eq, isFile, isJson, mapM_eq_ok_iff.2 isAssigned]
    rfl
  · rw [Dict.find?_ofList_append, Dict.find?_ofList_append, Dict.ofList_entries,
      Dict.ofList_entries, Option.or_eq_some_iff, Option.or_eq_some_iff,
      Dict.find?_ofList_eq_some_iff, Dict.find?_ofList_eq_none_iff]
    constructor
    · rintro (last | ⟨unassigned, given | ⟨absent, given⟩⟩)
      · exact .assignment last
      · exact .argument unassigned given
      · exact .file unassigned absent given
    · rintro (last | ⟨unassigned, given⟩ | ⟨unassigned, absent, given⟩)
      · exact .inl last
      · exact .inr ⟨unassigned, .inl given⟩
      · exact .inr ⟨unassigned, .inr ⟨absent, given⟩⟩

/-- Collecting fails exactly as the first source does that cannot be read. -/
theorem collect_eq_error_iff {failure : Failure} :
    sources.collect files = .error failure ↔ FirstFault files sources failure := by
  rw [collect_eq]
  constructor
  · intro fails
    cases isFile : sources.fromFile files with
    | error cause =>
      rw [isFile] at fails
      cases fails
      exact .file isFile
    | ok fromFile =>
      cases isJson : sources.fromJson with
      | error cause =>
        rw [isFile, isJson] at fails
        cases fails
        exact .argument isFile isJson
      | ok fromJson =>
        cases areAssigned : sources.assignments.mapM readAssignment with
        | error cause =>
          rw [isFile, isJson, areAssigned] at fails
          cases fails
          obtain ⟨earlier, assignment, later, given, good, fails⟩ := mapM_eq_error_iff.1 areAssigned
          exact .assignment isFile isJson given good fails
        | ok assigned =>
          rw [isFile, isJson, areAssigned] at fails
          cases fails
  · rintro (fails | ⟨isFile, fails⟩ | ⟨isFile, isJson, given, good, fails⟩)
    · rw [fails]
      rfl
    · rw [isFile, fails]
      rfl
    · rw [isFile, isJson, mapM_eq_error_iff.2 ⟨_, _, _, given, good, fails⟩]
      rfl

end VariableSources

/-- The variables of a text are the members of the object that the text writes, of which the last
one with a key counts. -/
theorem exists_members_of_readVariables {source : VariableSource} {text : String}
    {given : Variables} (isRead : readVariables source text = .ok given) :
    ∃ members, Json.ofText? text = some (.object members) ∧
      ∀ key value, given.find? key = some value ↔ Dict.IsLast members key value := by
  unfold readVariables at isRead
  split at isRead
  · next members isObject =>
    cases isRead
    exact ⟨members, isObject, fun key value => Dict.find?_ofList_eq_some_iff⟩
  · cases isRead
  · cases isRead

/-- The key of an assignment is not empty. -/
theorem key_ne_empty_of_readAssignment {assignment key : String} {value : Json}
    (accepted : readAssignment assignment = .ok (key, value)) : key ≠ "" := by
  unfold readAssignment at accepted
  split at accepted
  · cases accepted
  · dsimp only at accepted
    split at accepted
    · cases accepted
    · next named =>
      cases accepted
      rwa [List.isEmpty_iff, ← String.toList_ofList (l := Text.trim _),
        String.toList_eq_nil_iff] at named

/-- An assignment is read exactly when something stands before its first equals sign, blanks apart:
that is the key, and what stands behind the sign gives the value. -/
theorem readAssignment_eq_ok_iff {assignment key : String} {value : Json} :
    readAssignment assignment = .ok (key, value) ↔ ∃ front typed : String,
      assignment = front ++ "=" ++ typed ∧ '=' ∉ front.toList ∧
        key.toList = Text.trim front.toList ∧ key ≠ "" ∧ value = assignedValue typed := by
  constructor
  · intro accepted
    obtain ⟨front, typed, shape, absent, isKey, isValue⟩ := exists_of_readAssignment accepted
    exact ⟨front, typed, shape, absent, isKey, key_ne_empty_of_readAssignment accepted, isValue⟩
  · rintro ⟨front, typed, rfl, absent, isKey, named, rfl⟩
    have split : splitAssignment? (front ++ "=" ++ typed).toList =
        some (front.toList, typed.toList) := splitAssignment?_eq_some_iff.2 ⟨by simp, absent⟩
    have present : ¬ key.toList.isEmpty = true := by
      rwa [List.isEmpty_iff, String.toList_eq_nil_iff]
    rw [readAssignment, split]
    dsimp only
    rw [← isKey, if_neg present, String.ofList_toList, String.ofList_toList]

/-- Later sources of variables win. When the file, the argument and all assignments can be read,
variables are collected: a key has the value of its last assignment, or else that of the argument,
or else that of the file, and there are no other keys. Otherwise the failure is that of the first
source that cannot be read, whatever comes later. File and argument hold an object, of which the
last member with a key counts. An assignment is split at its first equals sign, and its key is what
stands before the sign, without the blanks around it. -/
theorem later_sources_win (files : Files) (sources : VariableSources) :
    (∀ fromFile fromJson assigned, sources.fromFile files = .ok fromFile →
      sources.fromJson = .ok fromJson →
        List.Forall₂ (fun assignment entry => readAssignment assignment = .ok entry)
          sources.assignments assigned →
          ∃ values, sources.collect files = .ok values ∧ ∀ key value,
            values.find? key = some value ↔ Provides fromFile fromJson assigned key value) ∧
    (∀ failure, sources.collect files = .error failure ↔ sources.FirstFault files failure) ∧
    (∀ source text given, readVariables source text = .ok given →
      ∃ members, Json.ofText? text = some (.object members) ∧
        ∀ key value, given.find? key = some value ↔ Dict.IsLast members key value) ∧
    ∀ assignment key value, readAssignment assignment = .ok (key, value) ↔
      ∃ front typed : String, assignment = front ++ "=" ++ typed ∧ '=' ∉ front.toList ∧
        key.toList = Text.trim front.toList ∧ key ≠ "" ∧ value = assignedValue typed :=
  ⟨fun _ _ _ => VariableSources.exists_collect_of_read,
    fun _ => VariableSources.collect_eq_error_iff,
    fun _ _ _ => exists_members_of_readVariables, fun _ _ _ => readAssignment_eq_ok_iff⟩

/-- The variables of a league and of a team. -/
def leagueVariables : Variables :=
  Dict.ofList [("league", .string "lpl"), ("teamA", .string "White")]

/-- A file that holds the variables of the league. -/
def leagueFiles : Files := fun path =>
  if path = "v.json" then .text (Json.ofDict leagueVariables).toCompactText else .absent

/-- The file of the league, the argument of the match, and two assignments of one team. -/
def crowdedSources : VariableSources where
  file := some "v.json"
  json := CommandLine.matchSources.json
  assignments := [" teamB =Blue", "teamB=Black=White"]

/-- The file is read as the variables of the league. -/
theorem fromFile_crowdedSources :
    crowdedSources.fromFile leagueFiles = .ok leagueVariables := by
  have readable : Json.Readable Json.mostNested (.ofDict leagueVariables) := by
    refine (Json.readable_object_iff : Json.Readable (126 + 1) _ ↔ _).2 fun member listed => ?_
    have listed : member ∈ [("league", Json.string "lpl"), ("teamA", .string "White")] := listed
    simp only [List.mem_cons, List.not_mem_nil, or_false] at listed
    rcases listed with rfl | rfl <;> exact Json.readable_string _
  have isRead : readVariables .file (Json.ofDict leagueVariables).toCompactText =
      .ok leagueVariables := CommandLine.readVariables_written readable rfl
  rw [VariableSources.fromFile, crowdedSources]
  exact isRead

/-- The assignments are read as two texts of one key. -/
theorem assignments_crowdedSources :
    List.Forall₂ (fun assignment entry => readAssignment assignment = .ok entry)
      crowdedSources.assignments
      [("teamB", .string "Blue"), ("teamB", .string "Black=White")] := by
  have isText : ∀ typed, (Json.ofText? typed).isNone = true → .string typed = assignedValue typed :=
    fun typed noJson => by rw [assignedValue, Option.isNone_iff_eq_none.1 noJson]
  refine .cons ?_ (.cons ?_ .nil)
  · exact readAssignment_eq_ok_iff.2 ⟨" teamB ", "Blue", by decide +kernel, by decide +kernel,
      by decide +kernel, by decide +kernel, isText _ (by decide +kernel)⟩
  · exact readAssignment_eq_ok_iff.2 ⟨"teamB", "Black=White", by decide +kernel, by decide +kernel,
      by decide +kernel, by decide +kernel, isText _ (by decide +kernel)⟩

/-- The league comes from the file, one team from the argument although the file has it as well,
and the other one from the last of its assignments. -/
theorem crowded_sources_are_merged :
    ∃ values, crowdedSources.collect leagueFiles = .ok values ∧
      values.find? "league" = some (.string "lpl") ∧
      values.find? "teamA" = some (.string "Red") ∧
      values.find? "teamB" = some (.string "Black=White") ∧ values.find? "teamB " = none := by
  obtain ⟨values, collected, provided⟩ := (later_sources_win leagueFiles crowdedSources).1 _ _ _
    fromFile_crowdedSources CommandLine.fromJson_matchSources assignments_crowdedSources
  have unassigned : ∀ key : String, key ≠ "teamB" →
      ∀ entry ∈ [("teamB", Json.string "Blue"), ("teamB", .string "Black=White")],
        entry.1 ≠ key := by
    intro key other entry listed
    simp only [List.mem_cons, List.not_mem_nil, or_false] at listed
    rcases listed with rfl | rfl <;> exact other.symm
  refine ⟨values, collected, (provided _ _).2 (.file (unassigned _ (by decide)) rfl rfl),
    (provided _ _).2 (.argument (unassigned _ (by decide)) rfl),
    (provided _ _).2 (.assignment ⟨[("teamB", .string "Blue")], [], rfl, by simp⟩), ?_⟩
  rw [Option.eq_none_iff_forall_ne_some]
  intro value found
  rcases (provided _ _).1 found with ⟨earlier, later, split, -⟩ | ⟨-, given⟩ | ⟨-, -, given⟩
  · have listed : ("teamB ", value) ∈ [("teamB", Json.string "Blue"),
        ("teamB", .string "Black=White")] := split ▸ by simp
    exact unassigned "teamB " (by decide) _ listed rfl
  · cases given
  · cases given

end PredictionMarket
