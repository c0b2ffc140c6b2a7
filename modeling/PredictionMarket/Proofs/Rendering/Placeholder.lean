import PredictionMarket.Placeholder

/-!
# Where placeholders stand

A name without braces is fixed by the text in which it stands between double braces, and
its token ends before the next pair of opening braces begins. `token_prefix_of_opening`
is that second fact; it is why tokens of such names never overlap, and why a text may be
cut in front of any pair of opening braces without losing or making a placeholder.
-/

namespace PredictionMarket.Placeholder

/-- A name in which no brace stands. -/
def BraceFree (name : List Char) : Prop := ∀ c ∈ name, isBrace c = false

instance (name : List Char) : Decidable (BraceFree name) :=
  decidable_of_iff (name.all fun c => !isBrace c) (by simp [BraceFree])

/-- The characters of a name without braces are no opening braces. -/
theorem BraceFree.ne_opening {name : List Char} (free : BraceFree name) {c : Char}
    (member : c ∈ name) : c ≠ '\x7b' := by
  rintro rfl
  exact absurd (free _ member) (by decide)

/-- A token is four braces longer than its name. -/
@[simp] theorem length_token (name : List Char) : (token name).length = name.length + 4 := by
  simp [token]

/-- A text that begins with a token. -/
theorem token_append (name rest : List Char) :
    token name ++ rest = '\x7b' :: '\x7b' :: (name ++ '\x7d' :: '\x7d' :: rest) := by
  simp [token]

/-- The name in a token is what stands before the next brace. -/
theorem takeWhile_name {name : List Char} (free : BraceFree name) (rest : List Char) :
    (name ++ '\x7d' :: rest).takeWhile (fun c => !isBrace c) = name := by
  have kept : ∀ c ∈ name, (!isBrace c) = true := fun c member => by simp [free c member]
  rw [List.takeWhile_append_of_pos kept, List.takeWhile_cons_of_neg (by decide),
    List.append_nil]

/-- Two tokens with which one text begins have the same name. -/
theorem name_eq_of_begins {left right text : List Char} (leftFree : BraceFree left)
    (rightFree : BraceFree right) (leftStands : token left <+: text)
    (rightStands : token right <+: text) : left = right := by
  obtain ⟨leftRest, rfl⟩ := leftStands
  obtain ⟨rightRest, same⟩ := rightStands
  rw [token_append, token_append, List.cons.injEq, List.cons.injEq] at same
  rw [← takeWhile_name leftFree ('\x7d' :: leftRest), ← same.2.2, takeWhile_name rightFree]

/-- A text begins with the placeholder of a name exactly when it begins with the token of
that name, and the name is one that placeholders have. -/
theorem nameAt?_eq_some_iff {text name : List Char} :
    nameAt? text = some name ↔ name ≠ [] ∧ BraceFree name ∧ token name <+: text := by
  constructor
  · intro found
    unfold nameAt? at found
    split at found
    case h_1 rest =>
      dsimp only at found
      split at found
      case isTrue closed =>
        cases found
        have free : BraceFree (rest.takeWhile fun c => !isBrace c) := fun c member => by
          simpa using List.all_eq_true.1 List.all_takeWhile c member
        have parts : _ ++ rest.drop (rest.takeWhile fun c => !isBrace c).length = rest :=
          List.prefix_iff_eq_append.1 (List.takeWhile_prefix _)
        obtain ⟨behind, closing⟩ := closed.2
        refine ⟨closed.1, free, behind, ?_⟩
        rw [← closing] at parts
        rw [token_append]
        exact congrArg (fun text => '\x7b' :: '\x7b' :: text) parts
      case isFalse => cases found
    case h_2 => cases found
  · rintro ⟨nonempty, free, rest, rfl⟩
    rw [token_append]
    simp [nameAt?, takeWhile_name free, nonempty]

/-- A list that lacks an element and begins a text ends before that element. -/
private theorem prefix_of_absent {front lead rest : List Char} {stop : Char} (absent : stop ∉ front)
    (stands : front <+: lead ++ stop :: rest) : front <+: lead := by
  induction lead generalizing front with
  | nil =>
    cases front with
    | nil => exact List.nil_prefix
    | cons c front =>
      have here : c = stop := (List.cons_prefix_cons.1 stands).1
      exact absurd (here ▸ List.mem_cons_self) absent
  | cons d lead inductionHypothesis =>
    cases front with
    | nil => exact List.nil_prefix
    | cons c front =>
      obtain ⟨same, behind⟩ := List.cons_prefix_cons.1 stands
      have later : stop ∉ front := fun member => absent (List.mem_cons_of_mem _ member)
      exact List.cons_prefix_cons.2 ⟨same, inductionHypothesis later behind⟩

/-- Behind its opening braces a token has no further ones. -/
theorem opening_not_mem {name : List Char} (free : BraceFree name) :
    '\x7b' ∉ name ++ ['\x7d', '\x7d'] := by
  intro member
  rcases List.mem_append.1 member with inName | closing
  · exact free.ne_opening inName rfl
  · exact absurd closing (by decide)

/-- A token that begins before a pair of opening braces ends before it. -/
theorem token_prefix_of_opening {name lead rest : List Char} (free : BraceFree name)
    (nonempty : lead ≠ []) (stands : token name <+: lead ++ '\x7b' :: '\x7b' :: rest) :
    token name <+: lead := by
  have absent := opening_not_mem free
  cases lead with
  | nil => exact absurd rfl nonempty
  | cons c lead =>
    obtain ⟨rfl, behind⟩ := List.cons_prefix_cons.1 stands
    cases lead with
    | nil =>
      -- The second brace of the token would be the first one of the pair.
      have closing : name ++ ['\x7d', '\x7d'] <+: [] ++ '\x7b' :: rest :=
        (List.cons_prefix_cons.1 behind).2
      have none : name ++ ['\x7d', '\x7d'] = [] :=
        List.prefix_nil.1 (prefix_of_absent absent closing)
      simp at none
    | cons d lead =>
      obtain ⟨rfl, closing⟩ := List.cons_prefix_cons.1 behind
      exact List.cons_prefix_cons.2 ⟨rfl, List.cons_prefix_cons.2
        ⟨rfl, prefix_of_absent absent closing⟩⟩

/-- Cutting a text in front of a pair of opening braces keeps the placeholder with which
it begins. -/
theorem nameAt?_append_opening {lead : List Char} (nonempty : lead ≠ []) (rest : List Char) :
    nameAt? (lead ++ '\x7b' :: '\x7b' :: rest) = nameAt? lead := by
  apply Option.ext
  intro name
  rw [nameAt?_eq_some_iff, nameAt?_eq_some_iff]
  constructor
  · rintro ⟨named, free, stands⟩
    exact ⟨named, free, token_prefix_of_opening free nonempty stands⟩
  · rintro ⟨named, free, stands⟩
    exact ⟨named, free, stands.trans (List.prefix_append _ _)⟩

/-- A text that begins with anything but an opening brace begins with no placeholder. -/
theorem nameAt?_of_ne_opening {c : Char} (other : c ≠ '\x7b') (rest : List Char) :
    nameAt? (c :: rest) = none := by
  rw [Option.eq_none_iff_forall_ne_some]
  intro name found
  obtain ⟨-, -, stands⟩ := nameAt?_eq_some_iff.1 found
  exact other (List.cons_prefix_cons.1 stands).1.symm

/-- The placeholders of a text are the one with which it begins, if any, and those of the
text behind its first character. -/
theorem names_cons (c : Char) (rest : List Char) :
    names (c :: rest) = (nameAt? (c :: rest)).toList ++ names rest := by
  rw [names]
  cases nameAt? (c :: rest) <;> rfl

/-- The placeholders of a text are the tokens that stand in it, wherever they stand. -/
theorem mem_names_iff {text name : List Char} :
    name ∈ names text ↔ name ≠ [] ∧ BraceFree name ∧ token name <:+: text := by
  induction text with
  | nil =>
    have absent : ¬ token name <:+: [] := fun stands => nomatch List.infix_nil.1 stands
    exact iff_of_false List.not_mem_nil fun mentioned => absent mentioned.2.2
  | cons c rest inductionHypothesis =>
    rw [names_cons, List.mem_append, Option.mem_toList, nameAt?_eq_some_iff, inductionHypothesis,
      List.infix_cons_iff, ← and_or_left, ← and_or_left]

/-- A text mentions the names whose tokens stand in it. -/
theorem mem_namesOf_iff {text name : String} :
    name ∈ namesOf text ↔
      name ≠ "" ∧ BraceFree name.toList ∧ token name.toList <:+: text.toList := by
  have listed : name ∈ namesOf text ↔ name.toList ∈ names text.toList := by
    rw [namesOf, List.mem_map]
    constructor
    · rintro ⟨shown, member, rfl⟩
      rwa [String.toList_ofList]
    · exact fun member => ⟨_, member, String.ofList_toList⟩
  rw [listed, mem_names_iff, ne_eq, ne_eq, String.toList_eq_nil_iff]

/-- Cutting a text in front of a pair of opening braces keeps its placeholders. -/
theorem names_append_opening (lead rest : List Char) :
    names (lead ++ '\x7b' :: '\x7b' :: rest) = names lead ++ names ('\x7b' :: '\x7b' :: rest) := by
  induction lead with
  | nil => rfl
  | cons c lead inductionHypothesis =>
    rw [List.cons_append, names_cons, names_cons, inductionHypothesis, List.append_assoc]
    exact congrArg (fun first => first.toList ++ _)
      (nameAt?_append_opening (List.cons_ne_nil c lead) rest)

/-- A stretch without opening braces has no part in a placeholder behind it. -/
theorem names_append_of_no_opening {front : List Char} (absent : '\x7b' ∉ front)
    (rest : List Char) : names (front ++ rest) = names rest := by
  induction front with
  | nil => rfl
  | cons c front inductionHypothesis =>
    obtain ⟨other, later⟩ := not_or.1 (mt List.mem_cons.2 absent)
    rw [List.cons_append, names_cons, nameAt?_of_ne_opening (Ne.symm other),
      inductionHypothesis later]
    rfl

/-- The placeholders of the token of a name without braces: the empty name makes none. -/
def tokenNames (name : List Char) : List (List Char) := if name = [] then [] else [name]

/-- A token in front of a text adds its own placeholder and changes none. -/
theorem names_token_append {name : List Char} (free : BraceFree name) (rest : List Char) :
    names (token name ++ rest) = tokenNames name ++ names rest := by
  have first : (nameAt? (token name ++ rest)).toList = tokenNames name := by
    unfold tokenNames
    split
    case isTrue empty => subst empty; rfl
    case isFalse named =>
      have stands : nameAt? (token name ++ rest) = some name :=
        nameAt?_eq_some_iff.2 ⟨named, free, List.prefix_append _ _⟩
      rw [stands]
      rfl
  have second : nameAt? ('\x7b' :: (name ++ '\x7d' :: '\x7d' :: rest)) = none := by
    cases name with
    | nil => rfl
    | cons c name =>
      have other : c ≠ '\x7b' := free.ne_opening List.mem_cons_self
      simp [nameAt?, other]
  have later : names (name ++ '\x7d' :: '\x7d' :: rest) = names rest := by
    simpa using names_append_of_no_opening (opening_not_mem free) rest
  rw [token_append] at first ⊢
  rw [names_cons, first, names_cons, second, later]
  rfl

end PredictionMarket.Placeholder
