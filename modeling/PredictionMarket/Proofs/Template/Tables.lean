import Mathlib.Data.List.Forall2
import PredictionMarket.Proofs.Dictionary
import PredictionMarket.Template.Display

/-!
# Columns of tables

A column is as wide as its longest entry has bytes, and entries are filled up with spaces to that
number of characters. No text has more characters than bytes, so what follows the column begins in
the same place of every row, whatever characters stand in the entries. A column that would have to
be wider than a text can be filled up to keeps the whole table from being written.
-/

namespace PredictionMarket

/-- No text has more characters than bytes. -/
theorem length_le_utf8ByteSize (text : String) : text.length ≤ text.utf8ByteSize := by
  induction text using String.push_induction with
  | empty => exact Nat.le_of_eq rfl
  | push front c inductionHypothesis =>
    rw [String.length_push, String.utf8ByteSize_push]
    have present := c.utf8Size_pos
    omega

section Widths

variable {texts : List String} {width : Nat}

/-- A column is as wide as its longest entry. -/
theorem columnWidth_le_iff :
    columnWidth texts ≤ width ↔ ∀ text ∈ texts, text.utf8ByteSize ≤ width := by
  have folded : ∀ start, (texts.map String.utf8ByteSize).foldl max start ≤ width ↔
      start ≤ width ∧ ∀ text ∈ texts, text.utf8ByteSize ≤ width := by
    induction texts with
    | nil => simp
    | cons first rest inductionHypothesis =>
      intro start
      rw [List.map_cons, List.foldl_cons, inductionHypothesis, Nat.max_le, List.forall_mem_cons,
        and_assoc]
  rw [columnWidth, folded]
  exact and_iff_right (Nat.zero_le _)

/-- A column whose entries are not too wide is laid out. -/
theorem columnOf_of_narrow (narrow : ∀ text ∈ texts, text.utf8ByteSize ≤ widestColumn) :
    columnOf texts = .ok (columnWidth texts) :=
  if_pos (columnWidth_le_iff.2 narrow)

/-- A column with an entry that is too wide is refused. -/
theorem columnOf_of_wide (wide : ∃ text ∈ texts, widestColumn < text.utf8ByteSize) :
    columnOf texts = .error (.columnTooWide (columnWidth texts)) := by
  refine if_neg fun narrow => ?_
  obtain ⟨text, listed, wide⟩ := wide
  exact absurd (columnWidth_le_iff.1 narrow text listed) (Nat.not_le.2 wide)

/-- An entry of a column is filled up to the width of the column. -/
theorem exists_paddedTo {text : String} (listed : text ∈ texts) :
    ∃ spaces, (paddedTo (columnWidth texts) text).toList = text.toList ++ List.replicate spaces ' ' ∧
      text.toList.length + spaces = columnWidth texts := by
  have fits : text.length ≤ columnWidth texts :=
    Nat.le_trans (length_le_utf8ByteSize text) (columnWidth_le_iff.1 (Nat.le_refl _) text listed)
  refine ⟨columnWidth texts - text.length, ?_, ?_⟩
  · rw [paddedTo, String.toList_append, String.toList_ofList]
  · rw [String.length_toList, Nat.add_sub_of_le fits]

end Widths

/-- A text begins in a column when that many characters of its line stand before it, of which the
last two are spaces. -/
structure BeginsAt (column : Nat) (front : List Char) : Prop where
  inLine : '\n' ∉ front
  length : front.length = column
  apart : [' ', ' '] <:+ front

/-- Behind an entry that is filled up, and two spaces, a text begins in a column. -/
theorem BeginsAt.padded (front : List Char) {entry : List Char} {spaces width : Nat}
    (inLine : '\n' ∉ front) (unbroken : '\n' ∉ entry) (filled : entry.length + spaces = width) :
    BeginsAt (front.length + width + 2) (front ++ entry ++ List.replicate (spaces + 2) ' ') where
  inLine := by simp [inLine, unbroken]
  length := by
    rw [List.length_append, List.length_append, List.length_replicate]
    omega
  apart := by
    rw [List.replicate_add, ← List.append_assoc]
    exact List.suffix_append _ _

namespace Template.Summary

/-- A row of the list, in which category and name begin in columns. -/
def ListRow (categoryColumn nameColumn : Nat) (summary : Summary) (row : List Char) : Prop :=
  ∃ first second,
    let category := [' ', ' '] ++ summary.id.toList ++ List.replicate first ' '
    let name := category ++ summary.category.toList ++ List.replicate second ' '
    BeginsAt categoryColumn category ∧ BeginsAt nameColumn name ∧ '\n' ∉ summary.name.toList ∧
      row = name ++ summary.name.toList ++ ['\n']

/-- A row of the table of variables, in which the description begins in a column. -/
def VariableRow (column : Nat) (entry : String × Variable) (row : List Char) : Prop :=
  ∃ spaces,
    let description := [' ', ' '] ++ entry.1.toList ++ List.replicate spaces ' '
    BeginsAt column description ∧ row = description ++ entry.2.descriptionLine.toList ++ ['\n']

/-- The texts of a summary that stand in the list have no line breaks. -/
def Unbroken (summary : Summary) : Prop :=
  '\n' ∉ summary.id.toList ∧ '\n' ∉ summary.category.toList ∧ '\n' ∉ summary.name.toList

/-- Identifier and category of a summary are not too wide for the list. -/
def Narrow (summary : Summary) : Prop :=
  summary.id.utf8ByteSize ≤ widestColumn ∧ summary.category.utf8ByteSize ≤ widestColumn

section Rows

variable {summaries : List Summary} {summary : Summary}

/-- A line of the list is a row. -/
theorem listRow_listLine (listed : summary ∈ summaries) (unbroken : summary.Unbroken) :
    ListRow (2 + columnWidth (summaries.map id) + 2)
      (2 + columnWidth (summaries.map id) + 2 + columnWidth (summaries.map category) + 2) summary
      (listLine (columnWidth (summaries.map id)) (columnWidth (summaries.map category))
        summary).toList := by
  obtain ⟨idFree, categoryFree, nameFree⟩ := unbroken
  obtain ⟨first, isId, idFilled⟩ := exists_paddedTo (List.mem_map_of_mem (f := id) listed)
  obtain ⟨second, isCategory, categoryFilled⟩ :=
    exists_paddedTo (List.mem_map_of_mem (f := category) listed)
  have categoryBegins := BeginsAt.padded [' ', ' '] (by simp) idFree idFilled
  have nameBegins := BeginsAt.padded _ categoryBegins.inLine categoryFree categoryFilled
  rw [categoryBegins.length] at nameBegins
  refine ⟨first + 2, second + 2, categoryBegins, nameBegins, nameFree, ?_⟩
  simp only [listLine, String.toList_append, isId, isCategory, List.replicate_add]
  simp

/-- The lines of the list are rows with the same columns. -/
theorem forall₂_listRow (unbroken : ∀ summary ∈ summaries, summary.Unbroken) :
    List.Forall₂ (ListRow (2 + columnWidth (summaries.map id) + 2)
        (2 + columnWidth (summaries.map id) + 2 + columnWidth (summaries.map category) + 2))
      summaries (summaries.map fun summary => (listLine (columnWidth (summaries.map id))
        (columnWidth (summaries.map category)) summary).toList) := by
  rw [List.forall₂_map_right_iff, List.forall₂_same]
  exact fun summary listed => listRow_listLine listed (unbroken summary listed)

/-- A line of the table of variables is a row. -/
theorem variableRow_variableLine {entry : String × Variable}
    (listed : entry ∈ summary.schema.entries) (unbroken : '\n' ∉ entry.1.toList) :
    VariableRow (2 + columnWidth summary.schema.keys + 2) entry
      (variableLine (columnWidth summary.schema.keys) entry).toList := by
  obtain ⟨spaces, isName, filled⟩ :=
    exists_paddedTo (List.mem_map_of_mem (f := (·.1)) listed : entry.1 ∈ summary.schema.keys)
  have begins := BeginsAt.padded [' ', ' '] (by simp) unbroken filled
  refine ⟨spaces + 2, begins, ?_⟩
  simp only [variableLine, String.toList_append, isName, List.replicate_add]
  simp

/-- The lines of the table of variables are rows with the same column. -/
theorem forall₂_variableRow (unbroken : ∀ name ∈ summary.schema.keys, '\n' ∉ name.toList) :
    List.Forall₂ (VariableRow (2 + columnWidth summary.schema.keys + 2)) summary.schema.entries
      (summary.schema.entries.map fun entry =>
        (variableLine (columnWidth summary.schema.keys) entry).toList) := by
  rw [List.forall₂_map_right_iff, List.forall₂_same]
  exact fun entry listed =>
    variableRow_variableLine listed (unbroken _ (List.mem_map_of_mem listed))

/-- The list is written when no identifier and no category is too wide. -/
theorem listText_of_narrow (nonempty : summaries ≠ [])
    (narrow : ∀ summary ∈ summaries, summary.Narrow) :
    listText summaries = .ok ("Templates (" ++ toString summaries.length ++ "):\n\n" ++
      String.join (summaries.map (listLine (columnWidth (summaries.map id))
        (columnWidth (summaries.map category))))) := by
  have ids : ∀ text ∈ summaries.map id, text.utf8ByteSize ≤ widestColumn :=
    List.forall_mem_map.2 fun summary listed => (narrow summary listed).1
  have categories : ∀ text ∈ summaries.map category, text.utf8ByteSize ≤ widestColumn :=
    List.forall_mem_map.2 fun summary listed => (narrow summary listed).2
  rw [listText, if_neg (by simpa using nonempty), columnOf_of_narrow ids,
    columnOf_of_narrow categories]
  rfl

/-- The list is refused when an identifier or a category is too wide. -/
theorem listText_of_wide (wide : ∃ summary ∈ summaries, ¬ summary.Narrow) :
    ∃ width, listText summaries = .error (.columnTooWide width) := by
  obtain ⟨summary, listed, wide⟩ := wide
  have nonempty : ¬ summaries.isEmpty = true := by
    rintro empty
    rw [List.isEmpty_iff.1 empty] at listed
    cases listed
  rw [listText, if_neg nonempty]
  by_cases wideId : ∃ text ∈ summaries.map id, widestColumn < text.utf8ByteSize
  · rw [columnOf_of_wide wideId]
    exact ⟨_, rfl⟩
  · have ids : ∀ text ∈ summaries.map id, text.utf8ByteSize ≤ widestColumn := by
      simpa only [not_exists, not_and, Nat.not_lt] using wideId
    have wideCategory : ∃ text ∈ summaries.map category, widestColumn < text.utf8ByteSize := by
      refine ⟨_, List.mem_map_of_mem listed, Nat.not_le.1 fun narrow => wide ⟨?_, narrow⟩⟩
      exact ids _ (List.mem_map_of_mem listed)
    rw [columnOf_of_narrow ids, columnOf_of_wide wideCategory]
    exact ⟨_, rfl⟩

/-- What stands before the rows of variables. -/
def leadText (summary : Summary) : String :=
  summary.headText ++ if summary.schema.isEmpty then "" else "\nVariables:\n"

/-- The description of a template is written when no name of a variable is too wide. -/
theorem descriptionText_of_narrow
    (narrow : ∀ name ∈ summary.schema.keys, name.utf8ByteSize ≤ widestColumn) :
    summary.descriptionText = .ok (summary.leadText ++ String.join
      (summary.schema.entries.map (variableLine (columnWidth summary.schema.keys)))) := by
  rw [descriptionText, variablesText, leadText]
  split
  · next empty =>
    rw [List.isEmpty_iff.1 empty]
    simp [String.join]
  · rw [columnOf_of_narrow narrow, String.append_assoc]
    rfl

/-- The description of a template is refused when the name of a variable is too wide. -/
theorem descriptionText_of_wide
    (wide : ∃ name ∈ summary.schema.keys, widestColumn < name.utf8ByteSize) :
    ∃ width, summary.descriptionText = .error (.columnTooWide width) := by
  have nonempty : ¬ summary.schema.isEmpty = true := by
    obtain ⟨name, listed, -⟩ := wide
    intro empty
    rw [Dict.keys, List.isEmpty_iff.1 empty] at listed
    cases listed
  rw [descriptionText, variablesText, if_neg nonempty, columnOf_of_wide wide]
  exact ⟨_, rfl⟩

end Rows

end Template.Summary

open Template (Summary)
open Template.Summary

/-- Tables are aligned for any text that fits into a column. Every list of summaries in which no
identifier and no category is too wide is written, with one row for each summary in their order, and
categories begin in one column of all rows, and names in another. Every description of a template in
which no name of a variable is too wide is written, with one row for each variable in the ascending
order of the names, and the descriptions of the variables begin in one column. A table with a text
that is too wide is not written. -/
theorem tables_are_aligned (summaries : List Summary) (summary : Summary) :
    (summaries ≠ [] → (∀ listed ∈ summaries, listed.Unbroken) →
      ((∀ listed ∈ summaries, listed.Narrow) → ∃ text categoryColumn nameColumn rows,
        listText summaries = .ok text ∧
        text.toList =
          ("Templates (" ++ toString summaries.length ++ "):\n\n").toList ++ rows.flatten ∧
        List.Forall₂ (ListRow categoryColumn nameColumn) summaries rows) ∧
      ((∃ listed ∈ summaries, ¬ listed.Narrow) →
        ∃ width, listText summaries = .error (.columnTooWide width))) ∧
    ((∀ name ∈ summary.schema.keys, '\n' ∉ name.toList) →
      summary.schema.keys.Pairwise (· < ·) ∧
      ((∀ name ∈ summary.schema.keys, name.utf8ByteSize ≤ widestColumn) → ∃ text column rows,
        summary.descriptionText = .ok text ∧
        text.toList = summary.leadText.toList ++ rows.flatten ∧
        List.Forall₂ (VariableRow column) summary.schema.entries rows) ∧
      ((∃ name ∈ summary.schema.keys, widestColumn < name.utf8ByteSize) →
        ∃ width, summary.descriptionText = .error (.columnTooWide width))) := by
  refine ⟨fun nonempty unbroken => ⟨fun narrow => ?_, listText_of_wide⟩,
    fun unbroken => ⟨List.pairwise_map.2 summary.schema.ascending, fun narrow => ?_,
      descriptionText_of_wide⟩⟩
  · refine ⟨_, _, _, _, listText_of_narrow nonempty narrow, ?_, forall₂_listRow unbroken⟩
    rw [String.toList_append, String.toList_join, List.flatMap_map, List.flatMap_def]
  · refine ⟨_, _, _, descriptionText_of_narrow narrow, ?_, forall₂_variableRow unbroken⟩
    rw [String.toList_append, String.toList_join, List.flatMap_map, List.flatMap_def]

/-- A variable that holds a text. -/
def plainVariable : Variable where
  kind := .text
  required := false
  label := none
  fallback := none
  decimals := none
  options := []
  entity := none

/-- A summary with an identifier, a category and the names of variables. -/
def namedSummary (id category : String) (names : List String) : Summary where
  id
  name := "Named"
  description := ""
  category
  image := ""
  schema := Dict.ofList (names.map fun name => (name, plainVariable))

/-- Identifiers and names of one, of two and of three bytes a character are aligned. -/
theorem mixed_tables_are_aligned :
    let summaries := [namedSummary "北京" "ab" ["é", "zz"], namedSummary "long-id" "à" []]
    (∃ text categoryColumn nameColumn rows, listText summaries = .ok text ∧
      List.Forall₂ (ListRow categoryColumn nameColumn) summaries rows ∧
      text.toList =
        ("Templates (" ++ toString summaries.length ++ "):\n\n").toList ++ rows.flatten) ∧
    ∃ text column rows, (namedSummary "北京" "ab" ["é", "zz"]).descriptionText = .ok text ∧
      List.Forall₂ (VariableRow column) (namedSummary "北京" "ab" ["é", "zz"]).schema.entries rows ∧
      rows.length = 2 := by
  intro summaries
  obtain ⟨list, description⟩ :=
    tables_are_aligned summaries (namedSummary "北京" "ab" ["é", "zz"])
  have unbroken : ∀ summary ∈ summaries, summary.Unbroken := by
    unfold Unbroken
    decide +kernel
  have narrow : ∀ summary ∈ summaries, summary.Narrow := by
    unfold Narrow
    decide +kernel
  obtain ⟨text, categoryColumn, nameColumn, rows, written, shape, aligned⟩ :=
    (list (List.cons_ne_nil _ _) unbroken).1 narrow
  obtain ⟨shown, column, lines, described, -, begins⟩ :=
    (description (by decide +kernel)).2.1 (by decide +kernel)
  exact ⟨⟨text, categoryColumn, nameColumn, rows, written, aligned, shape⟩,
    shown, column, lines, described, begins, begins.length_eq.symm⟩

/-- A text of so many letters. -/
def letters (count : Nat) : String := String.ofList (List.replicate count 'a')

/-- A text of letters has no line break. -/
theorem unbroken_letters (count : Nat) : '\n' ∉ (letters count).toList := by
  rw [letters, String.toList_ofList, List.mem_replicate]
  exact fun member => absurd member.2 (by decide)

/-- A letter has a byte at least. -/
theorem le_utf8ByteSize_letters (count : Nat) : count ≤ (letters count).utf8ByteSize := by
  have length : (letters count).length = count := by
    rw [letters, String.length_ofList, List.length_replicate]
  exact Nat.le_trans (Nat.le_of_eq length.symm) (length_le_utf8ByteSize (letters count))

/-- A template that declares a variable whose name is one byte too wide is not described, and one
whose identifier is that wide is not listed, although no line break stands in either. -/
theorem wide_names_are_not_aligned :
    let wide := letters (widestColumn + 1)
    '\n' ∉ wide.toList ∧
    (∃ width, (namedSummary "wide" "test" [wide, "b"]).descriptionText =
      .error (.columnTooWide width)) ∧
    ∃ width, listText [namedSummary wide "test" []] = .error (.columnTooWide width) := by
  intro wide
  have tooWide : widestColumn < wide.utf8ByteSize := le_utf8ByteSize_letters (widestColumn + 1)
  refine ⟨unbroken_letters _, descriptionText_of_wide ⟨wide, ?_, tooWide⟩,
    listText_of_wide ⟨_, List.mem_singleton_self _, fun narrow => ?_⟩⟩
  · exact Dict.contains_iff.1 (Dict.contains_ofList.2 (by simp))
  · exact Nat.not_lt.2 narrow.1 tooWide

end PredictionMarket
