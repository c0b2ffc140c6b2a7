import Mathlib.Data.List.Basic
import PredictionMarket.Catalog.Builtin
import PredictionMarket.Proofs.Decimal.Digits
import PredictionMarket.Proofs.Template.SourceIssues
import PredictionMarket.Proofs.Text.Word
import PredictionMarket.Template.Check

/-!
# Which outcome indices the check finds

An extraction rule mentions an outcome index where `then`, `else` or `outcomeIdx:` stands, then
any blanks, and then digits up to the end of a word. The check looks for such a literal at every
place of the rule. No literal begins inside another one, so it makes no difference whether the
search goes on inside a literal or behind it, and every index that is mentioned and fits into a
machine word is found. A wider index is passed over, however few outcomes there are.
-/

namespace PredictionMarket

open Decimal (AllDigits)
open Text (AllBlank exists_blanks_append isBlank isNumeral isNumeral_of_isBlank
  isNumeral_of_isDigit isWord isWord_of_isNumeral trimStart_append_cons)

namespace OutcomeLiteral

section Literals

variable {before : Option Char} {text shown literal behind rest : List Char} {index : Nat}

/-- What announces an outcome index: `then` or `else` at the beginning of a word, or
`outcomeIdx:` anywhere. -/
inductive Announces (before : Option Char) : List Char → Prop
  | thenBranch (begins : isBoundary before (some 't') = true) : Announces before "then".toList
  | elseBranch (begins : isBoundary before (some 'e') = true) : Announces before "else".toList
  | outcomeIdx : Announces before "outcomeIdx:".toList

/-- An outcome literal stands between two stretches of a rule: what announces it, any blanks, and
digits of any script up to the end of a word. -/
inductive Stands (before : Option Char) (shown literal behind : List Char) : Prop
  | intro (keyword blanks : List Char) (announces : Announces before keyword)
      (blank : AllBlank blanks) (numerals : ∀ c ∈ shown, isNumeral c = true)
      (present : shown ≠ []) (ends : isBoundary shown.getLast? behind.head? = true)
      (written : literal = keyword ++ (blanks ++ shown))

/-- A rule mentions an outcome index: behind what announces it and any blanks stand digits of
ASCII that denote the index and end a word. -/
inductive Mentions (rule : List Char) (index : Nat) : Prop
  | intro (front keyword blanks figures behind : List Char)
      (announces : Announces front.getLast? keyword) (blank : AllBlank blanks)
      (digits : AllDigits figures) (present : figures ≠ [])
      (ends : isBoundary figures.getLast? behind.head? = true)
      (written : rule = front ++ (keyword ++ (blanks ++ (figures ++ behind))))
      (denotes : index = Decimal.valueOf figures)

/-- A keyword is split off where it stands. -/
theorem afterKeyword?_eq_some_iff :
    afterKeyword? before text = some rest ↔
      ∃ keyword, Announces before keyword ∧ text = keyword ++ rest := by
  constructor
  · intro found
    simp only [afterKeyword?, Bool.and_eq_true] at found
    split at found
    · next starts =>
      obtain ⟨behind, rfl⟩ := List.isPrefixOf_iff_prefix.1 starts.2
      cases found
      exact ⟨_, .thenBranch starts.1, rfl⟩
    split at found
    · next starts =>
      obtain ⟨behind, rfl⟩ := List.isPrefixOf_iff_prefix.1 starts.2
      cases found
      exact ⟨_, .elseBranch starts.1, rfl⟩
    split at found
    · next starts =>
      obtain ⟨behind, rfl⟩ := List.isPrefixOf_iff_prefix.1 starts
      cases found
      exact ⟨_, .outcomeIdx, rfl⟩
    · cases found
  · rintro ⟨keyword, announces, rfl⟩
    cases announces with
    | thenBranch begins => simp [afterKeyword?, begins]
    | elseBranch begins => simp [afterKeyword?, begins]
    | outcomeIdx => simp [afterKeyword?]

/-- Digits that end at the end of a word are all the digits that stand there. -/
theorem takeWhile_isNumeral (numerals : ∀ c ∈ shown, isNumeral c = true) (present : shown ≠ [])
    (ends : isBoundary shown.getLast? behind.head? = true) :
    (shown ++ behind).takeWhile isNumeral = shown := by
  have stops : ∀ c ∈ behind.head?, isNumeral c = false := by
    intro c first
    by_contra numeral
    rw [Bool.not_eq_false] at numeral
    have last := numerals _ (List.getLast_mem present)
    rw [List.getLast?_eq_some_getLast present, Option.mem_def.1 first] at ends
    simp [isBoundary, isWord_of_isNumeral last, isWord_of_isNumeral numeral] at ends
  rw [List.takeWhile_append_of_pos numerals]
  cases behind with
  | nil => simp
  | cons c rest => simp [stops c rfl]

/-- No literal stands at the end of a rule. -/
theorem at?_nil : at? before [] = none := by
  simp [at?, afterKeyword?]

/-- A literal is found exactly where one stands. -/
theorem at?_eq_some_iff :
    at? before text = some shown ↔
      ∃ literal behind, Stands before shown literal behind ∧ text = literal ++ behind := by
  constructor
  · intro found
    unfold at? at found
    split at found
    · cases found
    · next rest isKeyword =>
      obtain ⟨keyword, announces, rfl⟩ := afterKeyword?_eq_some_iff.1 isKeyword
      obtain ⟨blanks, blank, split⟩ := exists_blanks_append rest
      simp only [Option.ite_none_right_eq_some, Option.some_inj] at found
      obtain ⟨⟨present, ends⟩, rfl⟩ := found
      refine ⟨_, _, .intro keyword blanks announces blank (fun c => List.mem_takeWhile_imp) present
        ends rfl, ?_⟩
      rw [List.append_assoc, List.append_assoc,
        List.prefix_iff_eq_append.1 (List.takeWhile_prefix isNumeral)]
      exact congrArg (keyword ++ ·) split
  · rintro ⟨_, behind, ⟨keyword, blanks, announces, blank, numerals, present, ends, rfl⟩, rfl⟩
    have isKeyword := afterKeyword?_eq_some_iff.2
      ⟨keyword, announces, Eq.refl (keyword ++ (blanks ++ (shown ++ behind)))⟩
    have skipped : (blanks ++ (shown ++ behind)).dropWhile isBlank = shown ++ behind := by
      obtain ⟨c, more, rfl⟩ := List.exists_cons_of_ne_nil present
      refine trimStart_append_cons blank (Bool.eq_false_iff.2 fun isBlank => ?_)
      have numeral := numerals c List.mem_cons_self
      rw [isNumeral_of_isBlank isBlank] at numeral
      cases numeral
    rw [at?, List.append_assoc, List.append_assoc, isKeyword]
    simp only [skipped, takeWhile_isNumeral numerals present ends, List.drop_left]
    rw [if_pos ⟨present, ends⟩]

/-- Only digits of ASCII whose number fits into a machine word are an index. -/
theorem index?_eq_some_iff :
    index? shown = some index ↔
      AllDigits shown ∧ index = Decimal.valueOf shown ∧ index < 2 ^ 64 := by
  have width : Nat.pow 2 64 = 2 ^ 64 := rfl
  simp only [index?, width, Bool.and_eq_true, List.all_eq_true, decide_eq_true_eq,
    Option.ite_none_right_eq_some, Option.some_inj]
  constructor
  · rintro ⟨⟨digits, fits⟩, rfl⟩
    exact ⟨digits, rfl, fits⟩
  · rintro ⟨digits, rfl, fits⟩
    exact ⟨⟨digits, fits⟩, rfl⟩

/-- One character of a rule: the literal that begins with it, and those behind it. -/
theorem indicesFrom_cons (c : Char) :
    indicesFrom before (c :: rest) =
      ((at? before (c :: rest)).bind index?).toList ++ indicesFrom (some c) rest := by
  rw [indicesFrom]
  split
  · next found => rw [found]; rfl
  · next missed => rw [missed]; rfl

end Literals

section Search

variable {before : Option Char} {text : List Char} {index : Nat}

/-- The character behind which a text goes on after a stretch that is not empty. -/
theorem getLast?_cons_or (c : Char) (front : List Char) (before : Option Char) :
    (c :: front).getLast?.or before = front.getLast?.or (some c) := by
  cases front <;> simp [List.getLast?_cons]

/-- The indices found are those of the literals behind any stretch of the text. -/
theorem mem_indicesFrom_iff :
    index ∈ indicesFrom before text ↔
      ∃ front shown rest, text = front ++ rest ∧ at? (front.getLast?.or before) rest = some shown ∧
        index? shown = some index := by
  induction text generalizing before with
  | nil =>
    refine iff_of_false List.not_mem_nil ?_
    rintro ⟨front, shown, rest, split, found, -⟩
    rw [(List.append_eq_nil_iff.1 split.symm).2, at?_nil] at found
    cases found
  | cons c rest inductionHypothesis =>
    rw [indicesFrom_cons, List.mem_append, Option.mem_toList, Option.bind_eq_some_iff,
      inductionHypothesis]
    constructor
    · rintro (⟨shown, found, isIndex⟩ | ⟨front, shown, behind, rfl, found, isIndex⟩)
      · exact ⟨[], shown, c :: rest, rfl, found, isIndex⟩
      · exact ⟨c :: front, shown, behind, rfl, by rwa [getLast?_cons_or], isIndex⟩
    · rintro ⟨_ | ⟨head, front⟩, shown, behind, split, found, isIndex⟩
      · cases split
        exact .inl ⟨shown, found, isIndex⟩
      · cases split
        rw [getLast?_cons_or] at found
        exact .inr ⟨front, shown, behind, rfl, found, isIndex⟩

/-- The check finds exactly the indices that a rule mentions and that fit into a machine
word. -/
theorem mem_indices_iff {rule : String} :
    index ∈ indices rule ↔ Mentions rule.toList index ∧ index < 2 ^ 64 := by
  simp only [indices, mem_indicesFrom_iff, Option.or_none, at?_eq_some_iff, index?_eq_some_iff]
  constructor
  · rintro ⟨front, figures, _, split, ⟨_, behind,
      ⟨keyword, blanks, announces, blank, -, present, ends, rfl⟩, rfl⟩, digits, rfl, fits⟩
    rw [List.append_assoc, List.append_assoc] at split
    exact ⟨.intro front keyword blanks figures behind announces blank digits present ends split rfl,
      fits⟩
  · rintro ⟨⟨front, keyword, blanks, figures, behind, announces, blank, digits, present, ends,
      split, rfl⟩, fits⟩
    rw [← List.append_assoc blanks, ← List.append_assoc keyword] at split
    exact ⟨front, figures, _, split, ⟨_, behind, .intro keyword blanks announces blank
      (fun c member => isNumeral_of_isDigit (digits c member)) present ends rfl, rfl⟩, digits, rfl,
      fits⟩

end Search

section Overlaps

variable {before : Option Char} {text shown literal behind rest : List Char}
  {found : List (List Char)}

/-- A scan goes through a rule from left to right. It takes up the digits of each literal that it
comes to, and goes on behind the literal. -/
inductive Scans : Option Char → List Char → List (List Char) → Prop
  | ended (before : Option Char) : Scans before [] []
  | passed {before : Option Char} {c : Char} {rest : List Char} {found : List (List Char)}
      (missed : at? before (c :: rest) = none) (later : Scans (some c) rest found) :
      Scans before (c :: rest) found
  | taken {before : Option Char} {shown literal behind : List Char} {found : List (List Char)}
      (stands : Stands before shown literal behind)
      (later : Scans literal.getLast? behind found) :
      Scans before (literal ++ behind) (shown :: found)

/-- A literal is not empty. -/
theorem Stands.ne_nil (stands : Stands before shown literal behind) : literal ≠ [] := by
  obtain ⟨keyword, blanks, -, -, -, present, -, rfl⟩ := stands
  simp [present]

/-- Every rule has a scan. -/
theorem exists_scans (before : Option Char) (text : List Char) :
    ∃ found, Scans before text found := by
  -- What is left to scan becomes shorter, by one character or by a whole literal.
  induction length : text.length using Nat.strong_induction_on generalizing before text with
  | _ n inductionHypothesis =>
    cases text with
    | nil => exact ⟨[], .ended before⟩
    | cons c rest =>
      cases isFound : at? before (c :: rest) with
      | none =>
        have shorter : rest.length < n := by simp [← length]
        obtain ⟨found, later⟩ := inductionHypothesis _ shorter (some c) rest rfl
        exact ⟨found, .passed isFound later⟩
      | some shown =>
        obtain ⟨literal, behind, stands, split⟩ := at?_eq_some_iff.1 isFound
        have shorter : behind.length < n := by
          rw [← length, split, List.length_append]
          exact Nat.lt_add_of_pos_left (List.length_pos_iff.2 stands.ne_nil)
        obtain ⟨found, later⟩ := inductionHypothesis _ shorter literal.getLast? behind rfl
        exact ⟨shown :: found, split ▸ .taken stands later⟩

/-- No keyword begins inside a stretch that stands in front of the rest of a rule. -/
def Silent (rest : List Char) : List Char → Prop
  | [] => True
  | c :: stretch =>
    (∀ keyword ∈ ["then".toList, "else".toList, "outcomeIdx:".toList],
      keyword.isPrefixOf (c :: (stretch ++ rest)) = false) ∧ Silent rest stretch

/-- No literal begins inside a silent stretch. -/
theorem Silent.indicesFrom_append {stretch : List Char} (silent : Silent rest stretch) :
    indicesFrom before (stretch ++ rest) = indicesFrom (stretch.getLast?.or before) rest := by
  induction stretch generalizing before with
  | nil => rfl
  | cons c stretch inductionHypothesis =>
    obtain ⟨missed, later⟩ := silent
    simp only [List.forall_mem_cons] at missed
    have noKeyword : afterKeyword? before (c :: (stretch ++ rest)) = none := by
      simp only [afterKeyword?, missed, Bool.and_false, Bool.false_eq_true, if_false]
    rw [List.cons_append, indicesFrom_cons, at?, noKeyword, inductionHypothesis later,
      getLast?_cons_or]
    rfl

/-- The characters that stand behind the keyword of a literal. -/
def FollowsKeyword (c : Char) : Prop := isBlank c = true ∨ isNumeral c = true

/-- A letter does not follow a keyword. -/
theorem FollowsKeyword.ne {c letter : Char} (follows : FollowsKeyword c)
    (dense : isBlank letter = false) (noDigit : isNumeral letter = false) : letter ≠ c := by
  rintro rfl
  rcases follows with blank | numeral
  · exact absurd blank (by simp [dense])
  · exact absurd numeral (by simp [noDigit])

/-- No keyword begins with a character that follows one. -/
theorem silent_of_follows {stretch : List Char} (follows : ∀ c ∈ stretch, FollowsKeyword c) :
    Silent rest stretch := by
  induction stretch with
  | nil => trivial
  | cons c stretch inductionHypothesis =>
    obtain ⟨first, later⟩ := List.forall_mem_cons.1 follows
    refine ⟨?_, inductionHypothesis later⟩
    have noT : 't' ≠ c := first.ne rfl rfl
    have noE : 'e' ≠ c := first.ne rfl rfl
    have noO : 'o' ≠ c := first.ne rfl rfl
    simp [List.isPrefixOf, noT, noE, noO]

/-- Stretches in a row are silent when each is in front of what follows it. -/
theorem Silent.append {stretch more : List Char} (silent : Silent (more ++ rest) stretch)
    (later : Silent rest more) : Silent rest (stretch ++ more) := by
  induction stretch with
  | nil => exact later
  | cons c stretch inductionHypothesis =>
    refine ⟨?_, inductionHypothesis silent.2⟩
    rw [List.append_eq, List.append_assoc]
    exact silent.1

/-- No keyword begins inside another one, nor at its end with what follows it. -/
theorem Announces.exists_silent {keyword : List Char} (announces : Announces before keyword)
    (follows : ∀ c ∈ rest.head?, FollowsKeyword c) :
    ∃ first stretch, keyword = first :: stretch ∧ Silent rest stretch := by
  have noElse : ['l', 's', 'e'].isPrefixOf rest = false := by
    cases rest with
    | nil => rfl
    | cons c rest => simp [List.isPrefixOf, ((follows c rfl).ne rfl rfl : 'l' ≠ c)]
  cases announces with
  | thenBranch begins => exact ⟨'t', ['h', 'e', 'n'], rfl, by simp [Silent, List.isPrefixOf]⟩
  | elseBranch begins =>
    exact ⟨'e', ['l', 's', 'e'], rfl, by simp [Silent, List.isPrefixOf, noElse]⟩
  | outcomeIdx =>
    exact ⟨'o', ['u', 't', 'c', 'o', 'm', 'e', 'I', 'd', 'x', ':'], rfl,
      by simp [Silent, List.isPrefixOf]⟩

/-- No literal begins inside another one. -/
theorem Stands.exists_silent (stands : Stands before shown literal behind) :
    ∃ first stretch, literal = first :: stretch ∧ Silent behind stretch := by
  obtain ⟨keyword, blanks, announces, blank, numerals, present, -, rfl⟩ := stands
  have follows : ∀ c ∈ blanks ++ shown, FollowsKeyword c := fun c member =>
    (List.mem_append.1 member).imp (blank c) (numerals c)
  have nonempty : blanks ++ shown ≠ [] := List.append_ne_nil_of_right_ne_nil blanks present
  have first : ∀ c ∈ (blanks ++ shown ++ behind).head?, FollowsKeyword c := by
    intro c isFirst
    rw [List.head?_append_of_ne_nil _ nonempty] at isFirst
    exact follows c (List.mem_of_mem_head? isFirst)
  obtain ⟨head, stretch, rfl, silent⟩ := announces.exists_silent first
  exact ⟨head, stretch ++ (blanks ++ shown), rfl, silent.append (silent_of_follows follows)⟩

/-- The search finds in a literal what its digits denote, and goes on behind it. -/
theorem Stands.indicesFrom_append (stands : Stands before shown literal behind) :
    indicesFrom before (literal ++ behind) =
      (index? shown).toList ++ indicesFrom literal.getLast? behind := by
  have found := at?_eq_some_iff.2 ⟨literal, behind, stands, rfl⟩
  obtain ⟨first, stretch, rfl, silent⟩ := stands.exists_silent
  rw [List.cons_append] at found ⊢
  rw [indicesFrom_cons, found, silent.indicesFrom_append, Option.bind_some, ← getLast?_cons_or,
    Option.or_none]

/-- A scan that goes on behind each literal finds the same indices as the search at every place. -/
theorem Scans.indicesFrom_eq (scans : Scans before text found) :
    indicesFrom before text = found.filterMap index? := by
  induction scans with
  | ended before => rfl
  | passed missed later inductionHypothesis =>
    rw [indicesFrom_cons, missed, inductionHypothesis]
    rfl
  | taken stands later inductionHypothesis =>
    rw [stands.indicesFrom_append, inductionHypothesis, List.filterMap_cons]
    cases index? _ <;> rfl

/-- The indices of a rule are those of a scan of it, which takes up no character twice. -/
theorem exists_scans_indices (rule : String) :
    ∃ found, Scans none rule.toList found ∧ indices rule = found.filterMap index? := by
  obtain ⟨found, scans⟩ := exists_scans none rule.toList
  exact ⟨found, scans, scans.indicesFrom_eq⟩

end Overlaps

end OutcomeLiteral

section Issues

variable {template : Template} {position index outcomes : Nat}

/-- A data source has an issue for every index beyond the outcomes that its rule mentions. -/
theorem DataSource.outcomeOutOfRange_mem_issues_iff {source : DataSource} {declared place : Nat} :
    .outcomeOutOfRange position index outcomes ∈ source.issues declared place ↔
      place = position ∧ declared = outcomes ∧ outcomes ≤ index ∧
        index ∈ OutcomeLiteral.indices source.rule := by
  have noShape : Issue.outcomeOutOfRange position index outcomes ∉
      if source.shape.isOutcomeIndex then [] else [.shapeNotOutcomeIndex place] := by
    split <;> simp
  simp only [DataSource.issues, List.mem_append, noShape, false_or, List.mem_filterMap,
    Option.ite_none_right_eq_some, Option.some_inj, Issue.outcomeOutOfRange.injEq]
  constructor
  · rintro ⟨_, member, beyond, rfl, rfl, rfl⟩
    exact ⟨rfl, rfl, beyond, member⟩
  · rintro ⟨rfl, rfl, beyond, member⟩
    exact ⟨index, member, beyond, rfl, rfl, rfl⟩

/-- Only data sources have issues about outcome indices. -/
theorem Template.outcomeOutOfRange_mem_issues_iff :
    .outcomeOutOfRange position index outcomes ∈ template.issues ↔
      ∃ source, template.sources[position]? = some source ∧
        .outcomeOutOfRange position index outcomes ∈
          source.issues template.defaults.outcomes.length position :=
  Template.mem_issues_iff_of_position? rfl

/-- The check reports an outcome index of a data source exactly when its rule mentions the index,
there are no more outcomes than that, and the index fits into a machine word. -/
theorem Template.outcome_index_is_reported_iff (template : Template)
    (position index outcomes : Nat) :
    .outcomeOutOfRange position index outcomes ∈ template.issues ↔
      outcomes = template.defaults.outcomes.length ∧ outcomes ≤ index ∧ index < 2 ^ 64 ∧
        ∃ source, template.sources[position]? = some source ∧
          OutcomeLiteral.Mentions source.rule.toList index := by
  simp only [Template.outcomeOutOfRange_mem_issues_iff,
    DataSource.outcomeOutOfRange_mem_issues_iff, OutcomeLiteral.mem_indices_iff, true_and]
  constructor
  · rintro ⟨source, isSource, rfl, beyond, mentioned, fits⟩
    exact ⟨rfl, beyond, fits, source, isSource, mentioned⟩
  · rintro ⟨rfl, beyond, fits, source, isSource, mentioned⟩
    exact ⟨source, isSource, rfl, beyond, mentioned, fits⟩

/-- A template of two outcomes whose rule has an index of twenty digits. -/
def wideIndexTemplate : Template where
  id := "wide"
  name := "Wide"
  description := ""
  category := ""
  image := ""
  schema := Dict.empty
  question := "Up?"
  resolution := "The last price."
  sources := [Builtin.source "prices" "/prices" "if .up then 0 else 18446744073709551616 end"]
  defaults := Builtin.defaults ["Yes", "No"] 66 5

/-- An index of twenty digits is mentioned and no outcome has it, but it is wider than a machine
word, and the template has no issue. -/
theorem wide_outcome_index_is_passed_over :
    (∃ source, wideIndexTemplate.sources[0]? = some source ∧
      OutcomeLiteral.Mentions source.rule.toList 18446744073709551616) ∧
    wideIndexTemplate.defaults.outcomes.length ≤ 18446744073709551616 ∧
    wideIndexTemplate.issues = [] := by
  refine ⟨⟨_, rfl, .intro "if .up then 0 ".toList "else".toList " ".toList
    "18446744073709551616".toList " end".toList (.elseBranch (by decide +kernel))
    (by decide +kernel) (by decide +kernel) (by decide +kernel) (by decide +kernel)
    (by decide +kernel) (by decide +kernel)⟩, by decide +kernel, by decide +kernel⟩

end Issues

end PredictionMarket
