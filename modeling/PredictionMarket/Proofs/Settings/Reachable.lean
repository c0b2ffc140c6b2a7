import PredictionMarket.Proofs.Failure
import PredictionMarket.Settings.Discovery

/-!
# Settings that can be reached

Settings are replaced by what is read from a text, a file or a place where settings are
looked for, and they are moved to another environment in place. A step leads to settings in any
case, and to a failure besides when it fails. Reading returns valid settings only and moving
leaves the proxies alone, so all settings that such steps lead to are valid (`run_valid`); and a
step that fails has changed nothing (`take_of_failure`). Of moves in a row the last one that names
an environment counts (`run_select`).
-/

namespace PredictionMarket

/-- A protocol of the web and what it leads to, without a slash at the end. -/
def IsProxyAddress (address : String) : Prop :=
  ∃ protocol ∈ ["http://", "https://"], ∃ place : List Char, place ≠ [] ∧
    address.toList = protocol.toList ++ place ∧ address.toList.getLast? ≠ some '/'

/-- An address names a protocol of the web exactly when it begins with one. -/
theorem isHttp_iff {address : String} :
    isHttp address = true ↔
      ∃ protocol ∈ ["http://", "https://"], protocol.toList <+: address.toList := by
  simp [isHttp, List.isPrefixOf_iff_prefix]

/-- A proxy is without fault exactly when it is an address behind a protocol of the web. -/
theorem proxyFault?_eq_none_iff {environment : Environment} {proxy : String} :
    proxyFault? environment proxy = none ↔ IsProxyAddress proxy := by
  have faultless : proxyFault? environment proxy = none ↔
      isHttp proxy = true ∧ proxy.toList.getLast? ≠ some '/' := by
    unfold proxyFault?
    cases isHttp proxy <;> by_cases slash : proxy.toList.getLast? = some '/' <;> simp [slash]
  rw [faultless, isHttp_iff]
  constructor
  · rintro ⟨⟨protocol, isProtocol, place, split⟩, noSlash⟩
    refine ⟨protocol, isProtocol, place, ?_, split.symm, noSlash⟩
    -- A protocol alone ends in a slash.
    rintro rfl
    rw [← split, List.append_nil] at noSlash
    simp only [List.mem_cons, List.not_mem_nil, or_false] at isProtocol
    rcases isProtocol with rfl | rfl <;> exact noSlash rfl
  · rintro ⟨protocol, isProtocol, place, -, split, noSlash⟩
    exact ⟨⟨protocol, isProtocol, place, split.symm⟩, noSlash⟩

/-- A blank text names no environment. -/
theorem Environment.ofText?_of_blank {text : String} (blank : Text.trim text.toList = []) :
    Environment.ofText? text = none := by
  rw [Environment.ofText?, blank]
  rfl

namespace Settings

variable {files : Files} {settings next : Settings}

/-- The standard settings are valid. -/
theorem standard_valid : standard.Valid := by decide

/-- Validity is a matter of the proxies. -/
theorem Valid.of_proxies_eq (valid : settings.Valid) (same : next.proxies = settings.proxies) :
    next.Valid := by
  rw [valid_iff] at valid ⊢
  rwa [same]

/-- The proxy of valid settings is an address behind a protocol of the web. -/
theorem Valid.isProxyAddress (valid : settings.Valid) : IsProxyAddress settings.proxy :=
  proxyFault?_eq_none_iff.1 (valid_iff.1 valid settings.environment)

/-- Settings that pass the validation are valid, and they are what was validated. -/
theorem validated_eq_ok_iff : settings.validated = .ok next ↔ settings.Valid ∧ next = settings := by
  unfold validated Valid
  cases settings.fault? with
  | none => simp [eq_comm]
  | some fault => simp

/-- Settings that are read from a text are valid. -/
theorem valid_of_ofYaml {text : String} (read : ofYaml text = .ok next) : next.Valid := by
  unfold ofYaml at read
  split at read
  · cases read
    exact standard_valid
  · split at read
    · obtain ⟨valid, rfl⟩ := validated_eq_ok_iff.1 read
      exact valid
    · cases read

/-- Settings that are read from a file are valid. -/
theorem valid_of_ofFile {path : String} {content : FileContent}
    (read : ofFile path content = .ok next) : next.Valid := by
  unfold ofFile at read
  split at read
  · exact valid_of_ofYaml read
  · cases read

/-- Settings that are found are valid. -/
theorem valid_of_located {named : Option String} (found : located files named = .ok next) :
    next.Valid := by
  unfold located at found
  split at found
  · exact valid_of_ofFile found
  · cases found
    exact standard_valid
  · exact valid_of_ofFile found

/-- Behind a move, whether it fails or not, nothing but the environment is changed; it is the
one that is named, or else the one before. -/
theorem inEnvironment_fst (settings : Settings) (value : Option String) :
    (settings.inEnvironment value).1 = { settings with
      environment := (value.bind Environment.ofText?).getD settings.environment } := by
  cases value with
  | none => rfl
  | some text =>
    unfold inEnvironment
    dsimp only
    split
    case isTrue blank => simp [Environment.ofText?_of_blank (List.isEmpty_iff.1 blank)]
    case isFalse =>
      split
      case h_1 environment named => simp [named]
      case h_2 unnamed => simp [unnamed]

/-- Moving fails only when the text names no environment. -/
theorem ofText?_of_inEnvironment_failure {value : Option String} {failure : Failure}
    (fails : (settings.inEnvironment value).2 = some failure) :
    value.bind Environment.ofText? = none := by
  cases value with
  | none => rfl
  | some text =>
    unfold inEnvironment at fails
    dsimp only at fails
    split at fails
    · cases fails
    · split at fails
      case h_1 => cases fails
      case h_2 unnamed => exact unnamed

/-- A move that fails has changed nothing. -/
theorem inEnvironment_of_failure {value : Option String} {failure : Failure}
    (fails : (settings.inEnvironment value).2 = some failure) :
    (settings.inEnvironment value).1 = settings := by
  rw [inEnvironment_fst, ofText?_of_inEnvironment_failure fails]
  rfl

/-- Moving keeps settings valid. -/
theorem Valid.inEnvironment (valid : settings.Valid) (value : Option String) :
    (settings.inEnvironment value).1.Valid :=
  valid.of_proxies_eq (by rw [inEnvironment_fst])

/-- A blank text moves nothing. -/
theorem inEnvironment_of_blank {text : String} (blank : Text.trim text.toList = []) :
    settings.inEnvironment (some text) = (settings, none) := by
  simp [Settings.inEnvironment, blank]

/-- Settings that are looked for are valid. -/
theorem valid_of_discover {named selected : Option String}
    (found : discover files named selected = .ok next) : next.Valid := by
  unfold discover at found
  cases start : located files named with
  | error failure =>
    rw [start] at found
    cases found
  | ok settings =>
    rw [start] at found
    obtain ⟨-, rfl⟩ := Failure.settle_eq_ok_iff.1 found
    exact (valid_of_located start).inEnvironment selected

/-- Settings that are read take the place of those before. When reading fails, there is nothing
that could do so. -/
def replaced (settings : Settings) : Except Failure Settings → Settings × Option Failure
  | .ok next => (next, none)
  | .error failure => (settings, some failure)

/-- What replaces valid settings is valid when what is read is. -/
theorem Valid.replaced (valid : settings.Valid) {read : Except Failure Settings}
    (readValid : ∀ next, read = .ok next → next.Valid) : (settings.replaced read).1.Valid := by
  cases read with
  | ok next => exact readValid next rfl
  | error failure => exact valid

/-- A step that replaces settings or moves them. -/
inductive Step where
  /-- A YAML text is read. -/
  | read (text : String)
  | load (path : String)
  /-- Settings are looked for, given the named file and the value of the environment
  variable. -/
  | discover (named selected : Option String)
  /-- The settings are moved to the environment that a text names. -/
  | select (value : Option String)

/-- The settings behind a step, and its failure if it fails. -/
def Step.take (files : Files) (settings : Settings) : Step → Settings × Option Failure
  | read text => settings.replaced (ofYaml text)
  | load path => settings.replaced (Settings.load files path)
  | discover named selected => settings.replaced (Settings.discover files named selected)
  | select value => settings.inEnvironment value

/-- The settings behind steps in a row, of which some may fail. -/
def run (files : Files) (settings : Settings) (steps : List Step) : Settings :=
  steps.foldl (fun current step => (step.take files current).1) settings

/-- A step leads from valid settings to valid ones. -/
theorem Valid.take (valid : settings.Valid) (step : Step) : (step.take files settings).1.Valid := by
  cases step with
  | read text => exact valid.replaced fun _ => valid_of_ofYaml
  | load path => exact valid.replaced fun _ => valid_of_ofFile
  | discover named selected => exact valid.replaced fun _ => valid_of_discover
  | select value => exact valid.inEnvironment value

/-- A step that fails has changed nothing. -/
theorem take_of_failure {step : Step} {failure : Failure}
    (fails : (step.take files settings).2 = some failure) :
    (step.take files settings).1 = settings := by
  have replacing : ∀ {read : Except Failure Settings}, (settings.replaced read).2 = some failure →
      (settings.replaced read).1 = settings := by
    intro read fails
    cases read with
    | ok next => cases fails
    | error other => rfl
  cases step with
  | read text => exact replacing fails
  | load path => exact replacing fails
  | discover named selected => exact replacing fails
  | select value => exact inEnvironment_of_failure fails

/-- Valid settings are valid behind any number of steps. -/
theorem run_valid (valid : settings.Valid) (steps : List Step) :
    (run files settings steps).Valid := by
  induction steps generalizing settings with
  | nil => exact valid
  | cons step later inductionHypothesis => exact inductionHypothesis (valid.take step)

/-- Behind moves in a row the environment is the one that was named last, or else the one
before, and nothing else is changed. -/
theorem run_select (files : Files) (settings : Settings) (values : List (Option String)) :
    run files settings (values.map .select) = { settings with
      environment :=
        (values.filterMap (Option.bind · Environment.ofText?)).getLast?.getD
          settings.environment } := by
  induction values generalizing settings with
  | nil => rfl
  | cons value later inductionHypothesis =>
    have first : run files settings ((value :: later).map .select) =
        run files (settings.inEnvironment value).1 (later.map .select) := rfl
    rw [first, inductionHypothesis, inEnvironment_fst]
    cases named : value.bind Environment.ofText? with
    | none => simp [named]
    | some environment => simp [named, List.getLast?_cons]

/-- The settings that steps lead to are always valid, whatever the files, texts, paths and
values are, so their proxy is an address behind a protocol of the web that does not end in
a slash. A step that fails leaves the settings exactly as they were, and those behind it as well.
A move, whether it fails or not, changes nothing but the environment, a blank one changes nothing
and does not fail, and behind moves in a row the environment is the one that was named last. -/
theorem reachable_settings_are_valid (files : Files) (steps : List Step) :
    (run files standard steps).Valid ∧
    IsProxyAddress (run files standard steps).proxy ∧
    (∀ step failure, (step.take files (run files standard steps)).2 = some failure →
      (step.take files (run files standard steps)).1 = run files standard steps ∧
      run files standard (steps ++ [step]) = run files standard steps) ∧
    (∀ value, ∃ environment, ((run files standard steps).inEnvironment value).1 =
      { run files standard steps with environment }) ∧
    (∀ text, Text.trim text.toList = [] →
      (run files standard steps).inEnvironment (some text) = (run files standard steps, none)) ∧
    ∀ values : List (Option String),
      run files standard (steps ++ values.map .select) = { run files standard steps with
        environment := (values.filterMap (Option.bind · Environment.ofText?)).getLast?.getD
          (run files standard steps).environment } := by
  have further : ∀ later, run files standard (steps ++ later) =
      run files (run files standard steps) later := fun later => List.foldl_append
  have valid : (run files standard steps).Valid := run_valid standard_valid steps
  refine ⟨valid, valid.isProxyAddress, fun step failure fails => ?_,
    fun value => ⟨_, inEnvironment_fst _ value⟩, fun text blank => inEnvironment_of_blank blank,
    fun values => ?_⟩
  · have left := take_of_failure fails
    exact ⟨left, (further [step]).trans left⟩
  · rw [further]
    exact run_select files _ values

/-- One settings file. -/
def stagingFiles : Files := fun path =>
  if path = "marketgen.yaml" then .text "environment: staging" else .absent

/-- A file is found, another one is missing, and of the moves behind them the last one that
names an environment counts. -/
theorem stagingFiles_reach_development :
    ∃ settings, settings = run stagingFiles standard
      [.discover none none, .load "other.yaml", .select (some " DEV "), .select (some "test"),
        .select (some " ")] ∧
      settings.Valid ∧ settings.proxy = "http://localhost:8787" ∧
      IsProxyAddress settings.proxy := by
  have found : run stagingFiles standard [.discover none none] =
      { standard with environment := .staging } := by decide +kernel
  have missing : run stagingFiles standard [.discover none none, .load "other.yaml"] =
      run stagingFiles standard [.discover none none] :=
    ((reachable_settings_are_valid stagingFiles [.discover none none]).2.2.1 (.load "other.yaml")
      (.settings (.unreadable "other.yaml")) rfl).2
  obtain ⟨valid, address, -⟩ := reachable_settings_are_valid stagingFiles
    [.discover none none, .load "other.yaml", .select (some " DEV "), .select (some "test"),
      .select (some " ")]
  have moved := (reachable_settings_are_valid stagingFiles
    [.discover none none, .load "other.yaml"]).2.2.2.2.2 [some " DEV ", some "test", some " "]
  rw [missing, found] at moved
  refine ⟨_, rfl, valid, ?_, address⟩
  refine (congrArg Settings.proxy moved).trans ?_
  decide +kernel

end Settings

end PredictionMarket
