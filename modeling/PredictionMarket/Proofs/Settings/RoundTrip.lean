import PredictionMarket.Proofs.Text.Trimming
import PredictionMarket.Proofs.Yaml.Nodes
import PredictionMarket.Settings.Codec

/-!
# Settings written and read

Settings whose texts are of one line each are written so that reading gives them back
(`read_toYaml`), whatever their texts look like. What else there is between a text and its
settings is the validation (`ofYaml_toYaml`), so two settings with one text are the same
(`toYaml_injective`).
-/

namespace PredictionMarket.Settings

open Datum Yaml

/-- Every text of the settings is of one line: it holds no control characters, no line breaks
and no byte order mark. -/
structure InLines (settings : Settings) : Prop where
  proxies : ∀ environment, ∀ c ∈ (settings.proxies.of environment).toList, isInline c = true
  catalogPath : ∀ path ∈ settings.catalogPath, ∀ c ∈ path.toList, isInline c = true

variable {settings other : Settings}

/-- Environments have names that a field may have. -/
theorem isFieldName_name (environment : Environment) : IsFieldName environment.name := by
  cases environment <;> decide

/-- Proxies of one line each are writable. -/
theorem InLines.writable_proxies (inLines : settings.InLines) :
    settings.proxies.toEntry.Writable := by
  refine .record (by simp [Environment.all]) ?_ ?_
  · intro field member
    obtain ⟨environment, -, rfl⟩ := List.mem_map.1 member
    exact isFieldName_name environment
  · intro field member
    obtain ⟨environment, -, rfl⟩ := List.mem_map.1 member
    exact .text (inLines.proxies environment)

/-- Settings whose texts are of one line each are writable. -/
theorem InLines.writable (inLines : settings.InLines) :
    (Entry.record settings.entries).Writable := by
  have environment : (Entry.text settings.environment.name).Writable :=
    .text fun c member =>
      isInline_of_isFieldCharacter ((isFieldName_name settings.environment).letters c member)
  have writable : ∀ field ∈ settings.entries, IsFieldName field.1 ∧ field.2.Writable := by
    intro field member
    rw [entries, List.mem_append] at member
    simp only [List.mem_cons, List.not_mem_nil, or_false] at member
    obtain (rfl | rfl | rfl) | member := member
    · exact ⟨(by decide : IsFieldName "environment"), environment⟩
    · exact ⟨(by decide : IsFieldName "strict_placeholders"), .truth⟩
    · exact ⟨(by decide : IsFieldName "proxy_prefixes"), inLines.writable_proxies⟩
    · cases given : settings.catalogPath with
      | none => simp [given] at member
      | some path =>
        simp only [given, List.mem_singleton] at member
        subst member
        exact ⟨(by decide : IsFieldName "catalog_path"), .text (inLines.catalogPath path given)⟩
  exact .record (by simp [entries]) (fun field member => (writable field member).1)
    fun field member => (writable field member).2

section Reading

variable (document : Document) (room : Nat)

/-- An environment is read from its name. -/
theorem read_environment (environment : Environment) :
    Environment.read (⟨document, room, (Entry.text environment.name).node⟩ : Value) =
      (pure environment : Reading Environment) := by
  simp [Environment.read, oneOf, Value.alternative_text, Environment.find?_name]

/-- Proxies are read from the record that is written for them. -/
theorem read_proxies (proxies : Proxies) :
    Proxies.read (⟨document, room + 1, proxies.toEntry.node⟩ : Value) =
      (pure proxies : Reading Proxies) := by
  simp [Proxies.read, Datum.record, Proxies.toEntry, Value.members_record, Environment.all,
    Environment.name, Proxies.of, defaultedField, field, Value.text_text]

/-- Settings are read from the record that is written for them. -/
theorem read_entries (settings : Settings) :
    read (⟨document, room + 2, (Entry.record settings.entries).node⟩ : Value) =
      (pure settings : Reading Settings) := by
  obtain ⟨environment, strict, proxies, catalogPath⟩ := settings
  cases catalogPath with
  | none =>
    simp [read, entries, Datum.record, Value.members_record, defaultedField, optionalField, field,
      read_environment, Value.truth_truth, read_proxies]
  | some path =>
    simp [read, entries, Datum.record, Value.members_record, defaultedField, optionalField, field,
      read_environment, Value.truth_truth, read_proxies, Value.present_text, Value.text_text]

end Reading

/-- Settings are read back from the text that is written for them. -/
theorem InLines.read_toYaml (inLines : settings.InLines) :
    Yaml.ofText? read settings.toYaml = some settings := by
  have document := Document.ofText?_fieldsText inLines.writable
  have value := read_entries (.ofRoot (Entry.record settings.entries).node) 126 settings
  simp only [Yaml.ofText?, toYaml, document, Option.bind_eq_bind, Option.bind_some]
  exact congrArg (StateT.run' · (Document.ofRoot (Entry.record settings.entries).node).aliasLimit)
    value

/-- The text of settings is not blank. -/
theorem trim_toYaml_ne_nil (settings : Settings) : Text.trim settings.toYaml.toList ≠ [] := by
  obtain ⟨rest, begins⟩ : ∃ rest, settings.toYaml.toList = 'e' :: rest := by
    rw [toYaml, String.toList_ofList, entries, List.cons_append, fieldsText]
    exact ⟨_, rfl⟩
  obtain ⟨kept, trimmed⟩ := Text.exists_trim_cons (c := 'e') rfl rest
  simp [begins, trimmed]

/-- Reading the text of settings is validating them. -/
theorem InLines.ofYaml_toYaml (inLines : settings.InLines) :
    ofYaml settings.toYaml = settings.validated := by
  simp [ofYaml, trim_toYaml_ne_nil, inLines.read_toYaml]

/-- Different settings are written in different ways. -/
theorem toYaml_injective (inLines : settings.InLines) (otherInLines : other.InLines)
    (same : settings.toYaml = other.toYaml) : settings = other := by
  have read := inLines.read_toYaml
  rw [same, otherInLines.read_toYaml] at read
  exact (Option.some.inj read).symm

/-- Settings whose texts are of one line each are read back from their text if they are valid;
else reading fails with the fault that the validation finds first. -/
theorem written_settings_are_read_back (inLines : settings.InLines) :
    (settings.Valid → ofYaml settings.toYaml = .ok settings) ∧
      ∀ fault, settings.fault? = some fault →
        ofYaml settings.toYaml = .error (.settings fault) := by
  rw [inLines.ofYaml_toYaml]
  constructor
  · intro valid
    rw [validated, valid]
  · intro fault found
    rw [validated, found]

/-- Settings whose texts look like other YAML: like nothing, a comment, members in flow style,
a quoted text. -/
def lookalikes : Settings where
  environment := .staging
  strict := true
  proxies := {
    development := "http://\x7bhost: [80], 'it''s'\x7d"
    staging := "https://host/ # no \"comment\" "
    production := "https://\\\ufffe: 1" }
  catalogPath := some "null"

/-- The same settings with a proxy that looks like nothing and is no address. -/
def lookalikesWithoutProxy : Settings :=
  { lookalikes with proxies := { lookalikes.proxies with staging := " ~ " } }

/-- Settings that look like other YAML are read back, and their fault is found. -/
theorem lookalikes_are_read_back :
    lookalikes.InLines ∧ lookalikes.Valid ∧ ofYaml lookalikes.toYaml = .ok lookalikes ∧
      lookalikesWithoutProxy.InLines ∧
      ofYaml lookalikesWithoutProxy.toYaml = .error (.settings (.notHttp .staging " ~ ")) := by
  have inLines : lookalikes.InLines := by
    refine ⟨?_, ?_⟩
    · rintro ⟨⟩ <;> exact List.all_eq_true.1 rfl
    · rintro path ⟨⟩
      exact List.all_eq_true.1 rfl
  have faultyInLines : lookalikesWithoutProxy.InLines := by
    refine ⟨?_, inLines.catalogPath⟩
    rintro ⟨⟩ <;> exact List.all_eq_true.1 rfl
  have valid : lookalikes.Valid := by decide
  exact ⟨inLines, valid, (written_settings_are_read_back inLines).1 valid, faultyInLines,
    (written_settings_are_read_back faultyInLines).2 _ rfl⟩

end PredictionMarket.Settings
