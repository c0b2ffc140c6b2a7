import PredictionMarket.CommandLine.Option
import PredictionMarket.CommandLine.Usage

/-!
# Invocations

An invocation is what arguments ask for: a command with its own options, and the options
of all commands. Arguments are read from left to right. The value of an option is taken
down when the next option or the end is reached, and what is found behind the command is
judged before what stands in front of it.
-/

namespace PredictionMarket.CommandLine

/-- What has been given to a command, or before it. -/
structure Given where
  flags : List Flag
  /-- The values of options in their order. -/
  values : List (Parameter × String)
  template : Option String
  /-- The last option, not yet taken down, and its value once there is one. -/
  pending : Option (Parameter × Option String)

namespace Given

/-- Nothing. -/
def nothing : Given := ⟨[], [], none, none⟩

/-- The value of an option. -/
def value? (given : Given) (parameter : Parameter) : Option String :=
  (given.values.find? fun entry => entry.1 == parameter).map (·.2)

/-- All values of an option. -/
def valuesOf (given : Given) (parameter : Parameter) : List String :=
  (given.values.filter fun entry => entry.1 == parameter).map (·.2)

/-- Takes down a value of an option. -/
def withValue (given : Given) (parameter : Parameter) (value : String) : Except UsageFault Given :=
  if !parameter.isRepeatable && (given.value? parameter).isSome then .error .repeatedOption
  else if parameter.isPath && value.isEmpty then .error .badValue
  else .ok { given with values := given.values ++ [(parameter, value)], pending := none }

/-- Takes down the last option. -/
def settled (given : Given) : Except UsageFault Given :=
  match given.pending with
  | none => .ok given
  | some (_, none) => .error .badValue
  | some (parameter, some value) => given.withValue parameter value

/-- Takes down a flag. -/
def withFlag (given : Given) (flag : Flag) : Except UsageFault Given := do
  let given ← given.settled
  match flag with
  | .help => throw .helpWanted
  | .version => throw .versionWanted
  | flag =>
    if flag ∈ given.flags then throw .repeatedOption
    else return { given with flags := flag :: given.flags }

/-- Takes down the flags of letters. -/
def withLetters (given : Given) : List Char → Except UsageFault Given
  | [] => .ok given
  | letter :: rest =>
    match Flag.ofLetter? letter with
    | some flag => (given.withFlag flag).bind fun given => given.withLetters rest
    | none => .error .unknownArgument

/-- Takes down an option that is written in full. -/
def withLong (given : Given) (command : Option CommandName) (name : List Char)
    (value : Option (List Char)) : Except UsageFault Given :=
  match Parameter.ofText? command name, Flag.ofText? command name with
  | some parameter, _ => do
    let given ← given.settled
    match value with
    | some value => given.withValue parameter (String.ofList value)
    | none => return { given with pending := some (parameter, none) }
  | none, some flag => if value.isSome then .error .surplusValue else given.withFlag flag
  | none, none => .error .unknownArgument

/-- Takes down an argument that is no option: the identifier of a template, where a
command takes one. Before the command only the name of a command may stand, and not
behind the end of the options. -/
def withWord (given : Given) (command : Option CommandName) (ended : Bool) (text : String) :
    Except UsageFault Given :=
  match command with
  | some command =>
    if command.takesTemplate && given.template.isNone then
      given.settled.map fun given => { given with template := some text }
    else .error .unknownArgument
  | none =>
    if ended && (text == helpWord || (CommandName.ofText? text).isSome) then
      .error .unknownArgument
    else .error .unknownCommand

end Given

/-- What becomes of a request for help on the commands that are named. -/
def helpFault : List String → UsageFault
  | [] => .helpWanted
  | [text] =>
    if text == helpWord || (CommandName.ofText? text).isSome then .helpWanted
    else .unknownCommand
  | _ => .unknownCommand

/-- Reads arguments up to the name of a command, if one is expected, or to the end.
Returns what was given, and the command with the arguments behind it. `ended` says that
the options have ended. -/
def readArguments (command : Option CommandName) (ended : Bool) (given : Given) :
    List String → Except UsageFault (Given × Option (CommandName × List String))
  | [] => .ok (given, none)
  | text :: rest =>
    let go (next : Except UsageFault Given) :=
      next.bind fun given => readArguments command ended given rest
    if ended then go (given.withWord command ended text)
    else
      let awaited :=
        match given.pending with
        | some (parameter, none) => some parameter
        | _ => none
      let named := if awaited.isNone && command.isNone then CommandName.ofText? text else none
      match named with
      | some name => .ok (given, some (name, rest))
      | none =>
        if awaited.isNone && command.isNone && text == helpWord then .error (helpFault rest)
        else
          match Form.ofText text with
          | .escape => readArguments command true given rest
          | .long name value => go (given.withLong command name value)
          | .letters letters => go (given.withLetters letters)
          | .word =>
            match awaited with
            | some parameter =>
              readArguments command ended
                { given with pending := some (parameter, some text) } rest
            | none => go (given.withWord command ended text)

/-- What a command is asked to do. -/
inductive Command where
  /-- List the templates. -/
  | list (asJson : Bool)
  /-- Show one template. -/
  | describe (id : String) (asJson : Bool)
  /-- Generate a market. -/
  | generate (id : String) (sources : VariableSources) (strict : Bool)
  /-- Check the catalog. -/
  | check

/-- What arguments ask for. -/
structure Invocation where
  settingsPath : Option String
  /-- The name of the environment. -/
  environment : Option String
  command : Command

/-- The command that was given. -/
def Command.ofGiven (name : CommandName) (given : Given) : Except UsageFault Command :=
  match name, given.template with
  | .list, _ => .ok (.list (.json ∈ given.flags))
  | .check, _ => .ok .check
  | .describe, some id => .ok (.describe id (.json ∈ given.flags))
  | .generate, some id =>
    .ok (.generate id {
      file := given.value? .variablesPath
      json := given.value? .variablesJson
      assignments := given.valuesOf .assignment } (.strict ∈ given.flags))
  | .describe, none | .generate, none => .error .templateMissing

/-- Reads arguments. An option of all commands that is given before and behind the command
has the value behind it. -/
def Invocation.ofArguments (arguments : List String) : Except UsageFault Invocation := do
  let (before, found) ← readArguments none false .nothing arguments
  match found with
  | none =>
    let before ← before.settled
    throw (if before.flags.isEmpty && before.values.isEmpty then .nothingGiven
      else .commandMissing)
  | some (name, rest) =>
    let (given, _) ← readArguments (some name) false .nothing rest
    let given ← given.settled
    let command ← Command.ofGiven name given
    let before ← before.settled
    let prevailing (parameter : Parameter) : Option String :=
      (given.value? parameter).or (before.value? parameter)
    return {
      settingsPath := prevailing .settingsPath
      environment := prevailing .environment
      command }

end PredictionMarket.CommandLine
