/-!
# Faults of usage

Why arguments do not say what to do. Who asks for help or for the version also gives
nothing to do, but that is no error.
-/

namespace PredictionMarket

/-- Why arguments are not accepted. -/
inductive UsageFault where
  | helpWanted
  | versionWanted
  /-- There are no arguments. -/
  | nothingGiven
  /-- There are options, but no command. -/
  | commandMissing
  | unknownCommand
  | templateMissing
  | unknownArgument
  /-- An option that stands for one value is given twice. -/
  | repeatedOption
  /-- The value of an option is missing, or it is an empty path. -/
  | badValue
  /-- A value is given to an option that takes none. -/
  | surplusValue
deriving DecidableEq

namespace UsageFault

/-- The exit code of a fault of usage. -/
def exitCode : UsageFault → Nat
  | helpWanted | versionWanted => 0
  | _ => 2

/-- The wording of a fault of usage. -/
def message : UsageFault → String
  | helpWanted => "usage: marketgen [OPTIONS] list | show ID | generate ID | check"
  | versionWanted => "marketgen"
  | nothingGiven => "no command is given"
  | commandMissing => "a command is missing"
  | unknownCommand => "the command is unknown"
  | templateMissing => "the identifier of a template is missing"
  | unknownArgument => "an argument is not expected"
  | repeatedOption => "an option is given twice"
  | badValue => "the value of an option is missing"
  | surplusValue => "an option takes no value"

end UsageFault

end PredictionMarket
