import PredictionMarket.Proofs.Rendering.Cut
import PredictionMarket.Proofs.Rendering.Fields

/-!
# Simultaneous replacement

What rendering a text means, said position by position and without a scan: where the slot
of a key begins stands the value of the key, inside a slot stands nothing, and a character
that no slot covers stands for itself. When no brace stands in a key, slots do not overlap,
so the replaced text is determined, and it is the one that rendering returns.
-/

namespace PredictionMarket

open Placeholder

/-- The slot of a key stands in a text at a position. -/
def StandsAt (key : String) (text : List Char) (position : Nat) : Prop :=
  token key.toList <+: text.drop position

/-- What stands in a replaced text for the character at a position of the text. -/
inductive Contribution (binding : Binding) (text : List Char) (position : Nat) :
    List Char → Prop where
  /-- Where a slot begins, the value of its key. -/
  | value {key value : String} (bound : binding.find? key = some value)
      (stands : StandsAt key text position) :
      Contribution binding text position value.toList
  /-- Inside a slot that began before, nothing. -/
  | inside {key : String} {start : Nat} (isKey : key ∈ binding.keys)
      (stands : StandsAt key text start) (begun : start < position)
      (unfinished : position < start + (token key.toList).length) :
      Contribution binding text position []
  /-- Outside all slots, the character itself. -/
  | outside {c : Char} (here : text[position]? = some c)
      (uncovered : ∀ key ∈ binding.keys, ∀ start ≤ position, StandsAt key text start →
        start + (token key.toList).length ≤ position) :
      Contribution binding text position [c]

/-- The output is the text with every slot replaced by the value of its key, all at once. -/
def Replacement (binding : Binding) (text output : List Char) : Prop :=
  ∃ parts : List (List Char), parts.length = text.length ∧
    (∀ position part, parts[position]? = some part →
      Contribution binding text position part) ∧
    output = parts.flatten

namespace StandsAt

variable {key other : String} {text : List Char}

/-- Moving a text behind another one moves its slots along. -/
theorem append_iff (front : List Char) {rest : List Char} {position : Nat} :
    StandsAt key (front ++ rest) (front.length + position) ↔ StandsAt key rest position := by
  rw [StandsAt, StandsAt, List.drop_length_add_append]

/-- A slot that begins before another one ends before it. -/
theorem end_le {first second : Nat} (free : BraceFree key.toList)
    (stands : StandsAt key text first) (behind : StandsAt other text second)
    (before : first < second) : first + (token key.toList).length ≤ second := by
  obtain ⟨rest, same⟩ := behind
  have inText : second < text.length := by
    have := congrArg List.length same
    simp at this
    omega
  let lead := (text.drop first).take (second - first)
  have leadLength : lead.length = second - first := by
    simp [lead]
    omega
  have nonempty : lead ≠ [] := by
    intro empty
    rw [empty, List.length_nil] at leadLength
    omega
  have behindLead : (text.drop first).drop (second - first) = text.drop second := by
    rw [List.drop_drop, Nat.add_sub_of_le (Nat.le_of_lt before)]
  have parts : text.drop first = lead ++ '\x7b' :: '\x7b' ::
      (other.toList ++ '\x7d' :: '\x7d' :: rest) := by
    rw [← token_append, same, ← behindLead, List.take_append_drop]
  rw [StandsAt, parts] at stands
  have within := (token_prefix_of_opening free nonempty stands).length_le
  omega

/-- Slots at one position have the same key. -/
theorem key_eq {position : Nat} (free : BraceFree key.toList)
    (otherFree : BraceFree other.toList) (stands : StandsAt key text position)
    (otherStands : StandsAt other text position) : key = other :=
  String.toList_inj.1 (name_eq_of_begins free otherFree stands otherStands)

/-- Two slots of a text are the same one, or one of them ends before the other begins. -/
theorem same_or_apart {first second : Nat} (free : BraceFree key.toList)
    (otherFree : BraceFree other.toList) (stands : StandsAt key text first)
    (otherStands : StandsAt other text second) :
    (first = second ∧ key = other) ∨ first + (token key.toList).length ≤ second ∨
      second + (token other.toList).length ≤ first := by
  rcases Nat.lt_trichotomy first second with before | rfl | behind
  · exact .inr (.inl (end_le free stands otherStands before))
  · exact .inl ⟨rfl, key_eq free otherFree stands otherStands⟩
  · exact .inr (.inr (end_le otherFree otherStands stands behind))

end StandsAt

section

variable {binding : Binding} {text output : List Char}

/-- What follows a stretch that no slot leaves contributes the same with the stretch in
front of it. -/
theorem Contribution.append {front rest part : List Char} {position : Nat}
    (closed : ∀ key ∈ binding.keys, ∀ start < front.length, StandsAt key (front ++ rest) start →
      start + (token key.toList).length ≤ front.length)
    (contribution : Contribution binding rest position part) :
    Contribution binding (front ++ rest) (front.length + position) part := by
  cases contribution with
  | value bound stands => exact .value bound ((StandsAt.append_iff front).2 stands)
  | inside isKey stands begun unfinished =>
    exact .inside isKey ((StandsAt.append_iff front).2 stands) (by omega) (by omega)
  | outside here uncovered =>
    refine .outside ?_ fun key isKey start begun stands => ?_
    · rw [List.getElem?_append_right (by omega), Nat.add_sub_cancel_left]
      exact here
    · by_cases inFront : start < front.length
      · have ends := closed key isKey start inFront stands
        omega
      · obtain ⟨offset, rfl⟩ := Nat.exists_eq_add_of_le (Nat.le_of_not_lt inFront)
        have ends := uncovered key isKey offset (by omega)
          ((StandsAt.append_iff front).1 stands)
        omega

/-- A stretch that no slot leaves is replaced by what its positions contribute, in front of
the replacement of what follows. -/
theorem Replacement.append {front rest : List Char} (frontParts : List (List Char))
    (length : frontParts.length = front.length)
    (closed : ∀ key ∈ binding.keys, ∀ start < front.length, StandsAt key (front ++ rest) start →
      start + (token key.toList).length ≤ front.length)
    (contributions : ∀ position part, frontParts[position]? = some part →
      Contribution binding (front ++ rest) position part)
    (behind : Replacement binding rest output) :
    Replacement binding (front ++ rest) (frontParts.flatten ++ output) := by
  obtain ⟨parts, sameLength, later, rfl⟩ := behind
  refine ⟨frontParts ++ parts, by simp [length, sameLength], ?_, List.flatten_append.symm⟩
  intro position part here
  by_cases inFront : position < frontParts.length
  · rw [List.getElem?_append_left inFront] at here
    exact contributions position part here
  · obtain ⟨offset, rfl⟩ := Nat.exists_eq_add_of_le (Nat.le_of_not_lt inFront)
    rw [List.getElem?_append_right (by omega), Nat.add_sub_cancel_left] at here
    rw [length]
    exact (later offset part here).append closed

/-- A character at which no slot begins is kept. -/
theorem Replacement.kept {c : Char} {rest : List Char}
    (free : Cut.slotAt? binding.keys (c :: rest) = none)
    (behind : Replacement binding rest output) : Replacement binding (c :: rest) (c :: output) := by
  have noSlot : ∀ key ∈ binding.keys, ¬ StandsAt key (c :: rest) 0 :=
    Cut.slotAt?_eq_none_iff.1 free
  have closed : ∀ key ∈ binding.keys, ∀ start < [c].length, StandsAt key ([c] ++ rest) start →
      start + (token key.toList).length ≤ [c].length := by
    intro key isKey start first stands
    cases Nat.lt_one_iff.1 first
    exact absurd stands (noSlot key isKey)
  refine behind.append [[c]] rfl closed fun position part here => ?_
  obtain ⟨rfl, rfl⟩ : position = 0 ∧ part = [c] := by
    cases position with
    | zero => simpa [eq_comm] using here
    | succ position => simp at here
  refine .outside rfl fun key isKey start begun stands => ?_
  cases Nat.le_zero.1 begun
  exact absurd stands (noSlot key isKey)

/-- A slot at the beginning is replaced by the value of its key. -/
theorem Replacement.slot (keysFree : ∀ key ∈ binding.keys, BraceFree key.toList)
    {key value : String} {rest : List Char} (bound : binding.find? key = some value)
    (behind : Replacement binding rest output) :
    Replacement binding (token key.toList ++ rest) (value.toList ++ output) := by
  have isKey := Dict.mem_keys_of_find? bound
  have stands : StandsAt key (token key.toList ++ rest) 0 := List.prefix_append _ _
  have closed : ∀ other ∈ binding.keys, ∀ start < (token key.toList).length,
      StandsAt other (token key.toList ++ rest) start →
        start + (token other.toList).length ≤ (token key.toList).length := by
    intro other otherIsKey start inSlot otherStands
    rcases stands.same_or_apart (keysFree key isKey) (keysFree other otherIsKey) otherStands with
      ⟨rfl, rfl⟩ | after | before
    · omega
    · omega
    · rw [length_token] at before
      omega
  let frontParts := value.toList :: List.replicate (key.toList.length + 3) []
  have filled : frontParts.flatten = value.toList := by simp [frontParts]
  rw [← filled]
  refine behind.append frontParts (by simp [frontParts]) closed fun position part here => ?_
  cases position with
  | zero =>
    cases Option.some.inj here
    exact .value bound stands
  | succ position =>
    rw [List.getElem?_cons_succ, List.getElem?_replicate] at here
    split at here
    case isTrue inSlot =>
      cases Option.some.inj here
      exact .inside isKey stands (Nat.succ_pos _) (by rw [length_token]; omega)
    case isFalse => cases here

/-- Filling the slots of a text replaces them all at once. -/
theorem Replacement.fill (keysFree : ∀ key ∈ binding.keys, BraceFree key.toList)
    (text : List Char) :
    Replacement binding text ((Cut.ofText binding.keys text).fill binding.valueOf) := by
  induction text using Cut.ofText_induction binding.keys with
  | nil => exact ⟨[], rfl, by simp, rfl⟩
  | slot key rest found inductionHypothesis =>
    obtain ⟨value, bound⟩ := Dict.exists_find?_of_mem_keys (Cut.slotAt?_eq_some found).1
    have valueOf : binding.valueOf key = value.toList := by simp [Binding.valueOf, bound]
    rw [Cut.fill_slot _ found, valueOf]
    exact inductionHypothesis.slot keysFree bound
  | kept c rest free inductionHypothesis =>
    rw [Cut.fill_kept _ free]
    exact inductionHypothesis.kept free

/-- A position contributes one thing only. -/
theorem Contribution.unique (keysFree : ∀ key ∈ binding.keys, BraceFree key.toList)
    {position : Nat} {part other : List Char}
    (left : Contribution binding text position part)
    (right : Contribution binding text position other) : part = other := by
  -- A slot that begins at a position cannot begin inside another one.
  have notInside : ∀ {key value inner : String} {start : Nat}, binding.find? key = some value →
      StandsAt key text position → inner ∈ binding.keys → StandsAt inner text start →
      start < position → ¬ position < start + (token inner.toList).length := by
    intro key value inner start bound stands innerIsKey innerStands begun unfinished
    have ends := innerStands.end_le (keysFree inner innerIsKey) stands begun
    omega
  cases left with
  | value bound stands =>
    cases right with
    | value otherBound otherStands =>
      have same := stands.key_eq (keysFree _ (Dict.mem_keys_of_find? bound))
        (keysFree _ (Dict.mem_keys_of_find? otherBound)) otherStands
      subst same
      rw [Option.some.inj (bound.symm.trans otherBound)]
    | inside innerIsKey innerStands begun unfinished =>
      exact absurd unfinished (notInside bound stands innerIsKey innerStands begun)
    | outside here uncovered =>
      have ends := uncovered _ (Dict.mem_keys_of_find? bound) _ (Nat.le_refl _) stands
      rw [length_token] at ends
      omega
  | inside innerIsKey innerStands begun unfinished =>
    cases right with
    | value otherBound otherStands =>
      exact absurd unfinished (notInside otherBound otherStands innerIsKey innerStands begun)
    | inside => rfl
    | outside here uncovered =>
      have ends := uncovered _ innerIsKey _ (Nat.le_of_lt begun) innerStands
      omega
  | outside here uncovered =>
    cases right with
    | value otherBound otherStands =>
      have ends := uncovered _ (Dict.mem_keys_of_find? otherBound) _ (Nat.le_refl _) otherStands
      rw [length_token] at ends
      omega
    | inside innerIsKey innerStands begun unfinished =>
      have ends := uncovered _ innerIsKey _ (Nat.le_of_lt begun) innerStands
      omega
    | outside otherHere => rw [Option.some.inj (here.symm.trans otherHere)]

/-- A text has one replacement only. -/
theorem Replacement.unique (keysFree : ∀ key ∈ binding.keys, BraceFree key.toList)
    {other : List Char} (left : Replacement binding text output)
    (right : Replacement binding text other) : output = other := by
  obtain ⟨parts, length, contributions, rfl⟩ := left
  obtain ⟨otherParts, otherLength, otherContributions, rfl⟩ := right
  refine congrArg List.flatten (List.ext_getElem (length.trans otherLength.symm) ?_)
  intro position inParts inOther
  exact (contributions _ _ (List.getElem?_eq_getElem inParts)).unique keysFree
    (otherContributions _ _ (List.getElem?_eq_getElem inOther))

/-- Rendering a text returns its one replacement. -/
theorem replacement_iff (keysFree : ∀ key ∈ binding.keys, BraceFree key.toList) (strict : Bool)
    {text : String} {output : List Char} :
    Replacement binding text.toList output ↔
      output = ((⟨binding, strict⟩ : Renderer).apply text).toList := by
  have replaced := Replacement.fill keysFree text.toList
  rw [Renderer.toList_apply]
  exact ⟨fun other => other.unique keysFree replaced, fun same => same ▸ replaced⟩

end

/-- Substitution is simultaneous replacement. When no brace stands in a key, slots of a text
never overlap. Unless the pattern of the keys is too large, what is returned is the one text in
which every slot is replaced by the value of its key and every other character is kept, and the
order in which keys are tried at a place makes no difference. A pattern that is too large is
the only failure. -/
theorem substitute_is_simultaneous_replacement (engine : PatternEngine) (binding : Binding)
    (text : String) (keysFree : ∀ key ∈ binding.keys, BraceFree key.toList) :
    (∀ key ∈ binding.keys, ∀ other ∈ binding.keys, ∀ first second,
      StandsAt key text.toList first → StandsAt other text.toList second →
        (first = second ∧ key = other) ∨ first + (token key.toList).length ≤ second ∨
          second + (token other.toList).length ≤ first) ∧
    (engine.admits binding = true → ∃ output,
      substitute engine text binding = .ok output ∧
      (∀ replaced, Replacement binding text.toList replaced ↔ replaced = output.toList) ∧
      ∀ order : List String, order.Perm binding.keys →
        String.ofList ((Cut.ofText order text.toList).fill binding.valueOf) = output) ∧
    (engine.admits binding = false →
      substitute engine text binding = .error .patternTooLarge) := by
  refine ⟨?_, fun admitted => ?_, fun refused => substitute_of_refused refused text⟩
  · intro key isKey other otherIsKey first second stands otherStands
    exact stands.same_or_apart (keysFree key isKey) (keysFree other otherIsKey) otherStands
  · refine ⟨_, substitute_of_admitted admitted text, fun _ => replacement_iff keysFree false,
      fun order perm => ?_⟩
    rw [Cut.ofText_congr keysFree (fun key => perm.mem_iff) text.toList]
    rfl

/-- A binding of the empty key, of a key that begins another one, and of a value that looks
like a slot. -/
def nestedBinding : Binding :=
  Dict.ofList [("", "none"), ("a", "\x7b\x7bab\x7d\x7d"), ("ab", "AB")]

/-- Three braces around a key, the other keys without a gap, and two braces too many in front of
what is no key. -/
def bracedText : String :=
  "\x7b\x7b\x7ba\x7d\x7d\x7d\x7b\x7bab\x7d\x7d\x7b\x7b\x7d\x7d\x7b\x7b\x7b\x7bb\x7d\x7d"

/-- Slots are found between further braces and next to each other; values and what is no
slot stay as they are. -/
theorem substitute_nestedBinding :
    (∀ key ∈ nestedBinding.keys, BraceFree key.toList) ∧
    PatternEngine.standard.admits nestedBinding = true ∧
    substitute .standard bracedText nestedBinding =
      .ok "\x7b\x7b\x7bab\x7d\x7d\x7dABnone\x7b\x7b\x7b\x7bb\x7d\x7d" ∧
    Replacement nestedBinding bracedText.toList
      "\x7b\x7b\x7bab\x7d\x7d\x7dABnone\x7b\x7b\x7b\x7bb\x7d\x7d".toList := by
  have keysFree : ∀ key ∈ nestedBinding.keys, BraceFree key.toList := by decide +kernel
  have admitted : PatternEngine.standard.admits nestedBinding = true := by decide +kernel
  obtain ⟨-, returned, -⟩ :=
    substitute_is_simultaneous_replacement .standard nestedBinding bracedText keysFree
  obtain ⟨output, substituted, replaced, tried⟩ := returned admitted
  have shown : output = "\x7b\x7b\x7bab\x7d\x7d\x7dABnone\x7b\x7b\x7b\x7bb\x7d\x7d" := by
    rw [← tried nestedBinding.keys (List.Perm.refl _)]
    decide +kernel
  exact ⟨keysFree, admitted, shown ▸ substituted, (replaced _).2 (by rw [shown])⟩

end PredictionMarket
