import PredictionMarket.VariableSources

/-!
# Commands and options

The commands, the options that each of them takes, and the forms in which arguments are
written. Some options are taken by every command and before it; the others belong to one.
-/

namespace PredictionMarket.CommandLine

/-- The name of a command. -/
inductive CommandName where
  | list
  | describe
  | generate
  | check
deriving DecidableEq

namespace CommandName

/-- Every command. -/
def all : List CommandName := [list, describe, generate, check]

/-- How a command is written. -/
def text : CommandName → String
  | list => "list"
  | describe => "show"
  | generate => "generate"
  | check => "check"

/-- The command that a text names. -/
def ofText? (text : String) : Option CommandName :=
  all.find? fun command => command.text == text

/-- Whether a command works on one template. -/
def takesTemplate : CommandName → Bool
  | describe | generate => true
  | list | check => false

end CommandName

/-- The word that asks for help where a command may stand. -/
def helpWord : String := "help"

/-- An option without a value. -/
inductive Flag where
  | verbose
  | json
  | strict
  | help
  | version
deriving DecidableEq

namespace Flag

/-- Every flag. -/
def all : List Flag := [verbose, json, strict, help, version]

/-- How a flag is written in full. -/
def text : Flag → String
  | verbose => "verbose"
  | json => "json"
  | strict => "strict"
  | help => "help"
  | version => "version"

/-- Whether a command takes a flag; before the command there is none yet. -/
def isTaken (command : Option CommandName) : Flag → Bool
  | verbose | help | version => true
  | json => command = some .list ∨ command = some .describe
  | strict => command = some .generate

/-- The flag that a command takes under a name. -/
def ofText? (command : Option CommandName) (name : List Char) : Option Flag :=
  all.find? fun flag => flag.isTaken command && flag.text.toList == name

/-- The flag of a letter. -/
def ofLetter? (letter : Char) : Option Flag :=
  match letter with
  | 'v' => some verbose
  | 'h' => some help
  | 'V' => some version
  | _ => none

end Flag

/-- An option with a value. -/
inductive Parameter where
  | settingsPath
  | environment
  | assignment
  | variablesJson
  | variablesPath
deriving DecidableEq

namespace Parameter

/-- Every option with a value. -/
def all : List Parameter :=
  [settingsPath, environment, assignment, variablesJson, variablesPath]

/-- How an option is written. -/
def text : Parameter → String
  | settingsPath => "config"
  | environment => "env"
  | assignment => "var"
  | variablesJson => "vars-json"
  | variablesPath => "vars-file"

/-- Whether a command takes an option; before the command there is none yet. -/
def isTaken (command : Option CommandName) : Parameter → Bool
  | settingsPath | environment => true
  | assignment | variablesJson | variablesPath => command = some .generate

/-- Whether an option may be given more than once. -/
def isRepeatable : Parameter → Bool
  | assignment => true
  | _ => false

/-- Whether the value of an option is a path, which must not be empty. -/
def isPath : Parameter → Bool
  | settingsPath | variablesPath => true
  | _ => false

/-- The option that a command takes under a name. -/
def ofText? (command : Option CommandName) (name : List Char) : Option Parameter :=
  all.find? fun parameter => parameter.isTaken command && parameter.text.toList == name

end Parameter

/-- The form of an argument. -/
inductive Form where
  /-- Two dashes alone, which end the options. -/
  | escape
  /-- Two dashes and a name, with a value behind an equals sign. -/
  | long (name : List Char) (value : Option (List Char))
  /-- One dash and letters. -/
  | letters (letters : List Char)
  /-- Anything else. -/
  | word

/-- The form of an argument. -/
def Form.ofText (text : String) : Form :=
  match text.toList with
  | ['-', '-'] => escape
  | '-' :: '-' :: rest =>
    let name := rest.takeWhile (· ≠ '=')
    match rest.dropWhile (· ≠ '=') with
    | [] => long name none
    | _ :: value => long name (some value)
  | '-' :: c :: rest => letters (c :: rest)
  | _ => word

end PredictionMarket.CommandLine
