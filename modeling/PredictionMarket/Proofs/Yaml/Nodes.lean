import PredictionMarket.Proofs.Yaml.Records
import PredictionMarket.Yaml.Value

/-!
# Records read back

The tokens of a record are read as one node without anchors, tags and aliases
(`Document.ofText?_fieldsText`). A reader that looks at the node finds the fields of the
record in their order and in each field the text or truth value that was written there.
-/

namespace PredictionMarket.Yaml

mutual

/-- The node of the value of a field. -/
def Entry.node : Entry → Node
  | .text value => .scalar .none value (Style.ofText value.toList).spelling
  | .truth value => .scalar .none (if value then "true" else "false") .plain
  | .record fields => .mapping .none (fieldNodes fields)

/-- The members of the node of a record. -/
def fieldNodes : List (String × Entry) → List (Node × Node)
  | [] => []
  | (name, entry) :: rest => (.scalar .none name .plain, entry.node) :: fieldNodes rest

end

/-- The value of a field is not left out. -/
theorem endsBlockNode_tokens (entry : Entry) (rest : List Token) :
    Token.endsBlockNode (entry.tokens ++ rest) = false := by
  cases entry <;> rfl

namespace Grammar

/-- A scalar is read as a node. -/
theorem node?_scalar {bound : Nat} (enough : 1 < bound) (place : Place) (scope : Scope)
    (text : List Char) (spelling : Spelling) (rest : List Token) :
    node? bound place scope (.scalar text spelling :: rest) =
      some ⟨.scalar .none (String.ofList text) spelling, scope, rest⟩ := by
  obtain ⟨bound, rfl⟩ : ∃ less, bound = less + 2 := ⟨bound - 2, by omega⟩
  cases place <;> simp [node?, properties?, content?]

mutual

/-- The tokens of a value are read as its node. Each token is worth more steps than are taken
for it. -/
theorem node?_tokens (entry : Entry) {bound : Nat} (enough : entry.tokens.length < bound)
    {place : Place} (inBlock : place ≠ .inFlow) (scope : Scope) (rest : List Token) :
    node? bound place scope (entry.tokens ++ rest) = some ⟨entry.node, scope, rest⟩ := by
  match entry with
  | .text value =>
    simpa [Entry.tokens, Entry.node] using node?_scalar enough place scope value.toList _ rest
  | .truth value => cases value <;> exact node?_scalar enough place scope _ _ rest
  | .record fields =>
    simp only [Entry.tokens, List.cons_append, List.append_assoc, List.length_cons,
      List.length_append] at enough ⊢
    obtain ⟨bound, rfl⟩ : ∃ less, bound = less + 2 := ⟨bound - 2, by omega⟩
    have fewer : (fieldsTokens fields).length < bound := by omega
    have members := blockMembers?_fieldsTokens fields fewer scope rest
    cases place with
    | inFlow => exact absurd rfl inBlock
    | inBlock =>
      simp [node?, properties?, content?, Properties.none, Entry.node, members, Parsed.map]
    | inMember =>
      simp [node?, properties?, content?, Properties.none, Entry.node, members, Parsed.map]

/-- The tokens of the fields of a record are read as the members of its node. -/
theorem blockMembers?_fieldsTokens (fields : List (String × Entry)) {bound : Nat}
    (enough : (fieldsTokens fields).length < bound) (scope : Scope) (rest : List Token) :
    blockMembers? bound scope (fieldsTokens fields ++ .blockEnd :: rest) =
      some ⟨fieldNodes fields, scope, rest⟩ := by
  match fields with
  | [] =>
    obtain ⟨bound, rfl⟩ := Nat.exists_eq_add_of_lt enough
    simp [fieldsTokens, blockMembers?, fieldNodes]
  | (name, entry) :: others =>
    simp only [fieldsTokens, List.cons_append, List.append_assoc, List.length_cons,
      List.length_append] at enough ⊢
    obtain ⟨bound, rfl⟩ : ∃ less, bound = less + 1 := ⟨bound - 1, by omega⟩
    let behind := fieldsTokens others ++ .blockEnd :: rest
    have named : Token.endsBlockNode
        (.scalar name.toList .plain :: .value :: (entry.tokens ++ behind)) = false := rfl
    have key : node? bound .inMember scope
        (.scalar name.toList .plain :: .value :: (entry.tokens ++ behind)) = _ :=
      node?_scalar (by omega) .inMember scope name.toList .plain _
    have given := endsBlockNode_tokens entry behind
    have value : node? bound .inMember scope (entry.tokens ++ behind) = _ :=
      node?_tokens entry (by omega) (by simp) scope behind
    have later : blockMembers? bound scope behind = _ :=
      blockMembers?_fieldsTokens others (by omega) scope rest
    simp [blockMembers?, behind, named, key, given, value, later, fieldNodes, Parsed.map]

end

end Grammar

/-- The text of a record is a document of its node. -/
theorem Document.ofText?_fieldsText {fields : List (String × Entry)}
    (writable : (Entry.record fields).Writable) :
    Document.ofText? (String.ofList (fieldsText 0 fields)) =
      some (.ofRoot (Entry.record fields).node) := by
  have root : Grammar.root? (.start Tag.standardHandles) (Entry.record fields).tokens =
      some ⟨(Entry.record fields).node, .start Tag.standardHandles, []⟩ := by
    have read : Grammar.node? (4 * (Entry.record fields).tokens.length + 4) .inBlock
        (.start Tag.standardHandles) ((Entry.record fields).tokens ++ []) = _ :=
      Grammar.node?_tokens (.record fields) (by omega) (by simp) _ _
    rwa [List.append_nil] at read
  have noDirectives : Directive.handlesOf? [] = some Tag.standardHandles := rfl
  have begins : (Entry.record fields).tokens =
      .blockMappingStart :: (fieldsTokens fields ++ [.blockEnd]) := rfl
  have first : Grammar.first? (Entry.record fields).tokens =
      Grammar.root? (.start Tag.standardHandles) (Entry.record fields).tokens := by
    rw [begins]
    simp [Grammar.first?, Grammar.spanDirectives, noDirectives]
  simp [Document.ofText?, Token.ofText?_fieldsText writable, Document.ofTokens?, first, root]

namespace Value

variable (document : Document) (room : Nat)

/-- The members of a record are its fields. -/
theorem members_record (fields : List (String × Entry)) :
    members ⟨document, room + 1, (Entry.record fields).node⟩ =
      pure (fields.map fun field => (field.1, ⟨document, room, field.2.node⟩)) := by
  have each : (fieldNodes fields).mapM (fun member => do
      return (← document.text member.1, (⟨document, room, member.2⟩ : Value)) : _ → Reading _) =
        pure (fields.map fun field => (field.1, ⟨document, room, field.2.node⟩)) := by
    induction fields with
    | nil => rfl
    | cons field rest inductionHypothesis =>
      rw [fieldNodes, List.mapM_cons, inductionHypothesis]
      rfl
  exact each

/-- A text is read where a text is wanted, whatever it looks like. -/
theorem text_text (value : String) :
    Datum.text (⟨document, room, (Entry.text value).node⟩ : Value) =
      (pure value : Reading String) :=
  rfl

/-- A text is read where the name of an alternative is wanted. -/
theorem alternative_text (value : String) :
    Datum.alternative (⟨document, room, (Entry.text value).node⟩ : Value) =
      (pure value : Reading String) :=
  rfl

/-- A truth value is read where one is wanted. -/
theorem truth_truth (value : Bool) :
    Datum.truth (⟨document, room, (Entry.truth value).node⟩ : Value) =
      (pure value : Reading Bool) := by
  cases value <;> rfl

/-- No text says that it is absent: what would say so is written between quotes. -/
theorem present_text (value : String) :
    Datum.present (⟨document, room, (Entry.text value).node⟩ : Value) =
      (pure (some ⟨document, room, (Entry.text value).node⟩) : Reading (Option Value)) := by
  cases style : Style.ofText value.toList with
  | plain =>
    have denotes := Style.denotesText_of_plain style
    have given : (value.isEmpty || isNothing value.toList) = false := by
      refine Bool.eq_false_iff.2 fun absent => ?_
      have nothing : (value.toList.isEmpty || isNothing value.toList) = true := by
        simpa [String.isEmpty_iff, String.toList_eq_nil_iff] using absent
      simp only [denotesText, denoted, nothing, if_true] at denotes
      cases denotes
    have kept : saysAbsent? Properties.none.tag value = some false := congrArg some given
    simp [Datum.present, present, followed, Document.followed, Entry.node, style, Style.spelling,
      kept]
  | singleQuoted =>
    simp only [Datum.present, Entry.node, style, Style.spelling]
    rfl
  | doubleQuoted =>
    simp only [Datum.present, Entry.node, style, Style.spelling]
    rfl
  | literal =>
    simp only [Datum.present, Entry.node, style, Style.spelling]
    rfl

end Value

end PredictionMarket.Yaml
