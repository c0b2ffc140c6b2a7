import PredictionMarket.CommandLine.Invocation
import PredictionMarket.Deployment
import PredictionMarket.Template.Check
import PredictionMarket.Template.Display

/-!
# Running commands

What a command prints, and how it ends. A command that fails prints nothing, but for the
check of the catalog, which lists what it found.
-/

namespace PredictionMarket.CommandLine

/-- What a command printed, and the failure it ended with. -/
structure Outcome where
  output : String
  failure : Option Failure

namespace Outcome

/-- The outcome of a command that prints only if it succeeds. -/
def ofResult (result : Except Failure String) : Outcome :=
  match result with
  | .ok output => ⟨output, none⟩
  | .error failure => ⟨"", some failure⟩

/-- The exit code of a command. -/
def exitCode (outcome : Outcome) : Nat :=
  match outcome.failure with
  | some failure => failure.exitCode
  | none => 0

end Outcome

/-- A JSON value as it is printed. -/
def printedJson (value : Json) : String := value.toIndentedText ++ "\n"

/-- The list of templates. -/
def listOutput (catalog : Catalog) (asJson : Bool) : Except Failure String :=
  if asJson then .ok (printedJson (.array (catalog.summaries.map Template.Summary.toJson)))
  else Template.Summary.listText catalog.summaries

/-- The description of a template. -/
def showOutput (catalog : Catalog) (id : String) (asJson : Bool) : Except Failure String :=
  match catalog.find? id with
  | none => .error (.templateNotFound id)
  | some template =>
    if asJson then .ok (printedJson template.summary.toJson)
    else template.summary.descriptionText

/-- The check of the catalog. -/
def checkOutcome (catalog : Catalog) : Outcome :=
  match catalog.findings with
  | [] => ⟨"Catalog OK: " ++ toString catalog.size ++ " templates checked.\n", none⟩
  | findings =>
    { output :=
        "Catalog issues (" ++ toString findings.length ++ "):\n\n" ++
          String.join (findings.map fun finding => "  - " ++ finding.text ++ "\n")
      failure := some (.catalog (.inconsistent findings.length catalog.size)) }

/-- Runs a command on a deployment. -/
def Command.run (engine : PatternEngine) (files : Files) (deployment : Deployment) :
    Command → Outcome
  | list asJson => .ofResult (listOutput deployment.catalog asJson)
  | describe id asJson => .ofResult (showOutput deployment.catalog id asJson)
  | generate id sources strict =>
    .ofResult ((deployment.generate engine files id sources strict).map fun market =>
      printedJson market.toJson)
  | check => checkOutcome deployment.catalog

/-- The deployment that an invocation works on. -/
def Invocation.deployment (files : Files) (selected : Option String) (invocation : Invocation) :
    Except Failure Deployment :=
  Deployment.load files invocation.settingsPath selected invocation.environment

/-- Runs an invocation, given the files and the value of the environment variable. -/
def Invocation.run (engine : PatternEngine) (files : Files) (selected : Option String)
    (invocation : Invocation) : Outcome :=
  match invocation.deployment files selected with
  | .ok deployment => invocation.command.run engine files deployment
  | .error failure => ⟨"", some failure⟩

/-- The paths that the arguments of a command name. -/
def Command.paths : Command → List String
  | generate _ sources _ => sources.file.toList
  | list _ | describe _ _ | check => []

/-- The paths that a run looks at before the catalog is known. -/
def Invocation.paths (invocation : Invocation) : List String :=
  Settings.standardFile :: invocation.settingsPath.toList ++ invocation.command.paths

/-- The path of the catalog file that the settings name. -/
def Invocation.catalogPath? (files : Files) (invocation : Invocation) : Option String :=
  match Settings.located files invocation.settingsPath with
  | .ok settings => settings.catalogPath
  | .error _ => none

end PredictionMarket.CommandLine
