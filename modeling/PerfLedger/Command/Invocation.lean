import PerfLedger.Command.Options

/-! Invocations of the program: the commands, and the command lines that stand for them. -/

namespace PerfLedger

-----------------------------------------------------------------------------------------
-- Invocations
-----------------------------------------------------------------------------------------

/-- Options of the command that creates an artifact. -/
structure InitOptions where
  data : Option String
  repoUrl : Option String
  force : Bool
  deriving DecidableEq, Repr, Inhabited

/-- Options of the command that records an entry. -/
structure AppendOptions where
  data : Option String
  entry : String
  tool : Option String
  repoUrl : Option String
  failOnAlert : Bool
  skipDetect : Bool
  json : Bool
  deriving DecidableEq, Repr, Inhabited

/-- Options of the command that judges an entry without recording it. -/
structure DetectOptions where
  data : Option String
  entry : String
  json : Bool
  deriving DecidableEq, Repr, Inhabited

/-- Options of the command that shows the values of a benchmark. -/
structure SeriesOptions where
  data : Option String
  tool : String
  benchmark : String
  json : Bool
  deriving DecidableEq, Repr, Inhabited

/-- Options of the command that shows what an artifact holds. -/
structure StatusOptions where
  data : Option String
  detailed : Bool
  deriving DecidableEq, Repr, Inhabited

/-- What the program is asked to do. -/
inductive Command where
  | init (options : InitOptions)
  | append (options : AppendOptions)
  | detect (options : DetectOptions)
  | series (options : SeriesOptions)
  | status (options : StatusOptions)
  deriving DecidableEq, Repr, Inhabited

/-- Form of the log. -/
inductive LogFormat where
  | text
  | json
  deriving DecidableEq, Repr, Inhabited

/-- A command together with the options that all commands share. -/
structure Invocation where
  config : Option String
  logFormat : LogFormat
  verbosity : Nat
  command : Command
  deriving DecidableEq, Repr, Inhabited

/-- The level of the log for a verbosity. -/
def logLevel (verbosity : Nat) : String :=
  match verbosity with
  | 0 => "warn"
  | 1 => "info"
  | 2 => "debug"
  | _ => "trace"

-----------------------------------------------------------------------------------------
-- Syntax
-----------------------------------------------------------------------------------------

/-- An option whose value is any text. -/
def textOption (name : String) : CommandOption := ⟨name, none, .value fun _ => true⟩

/-- An option whose value is a path. -/
def pathOption (name : String) : CommandOption :=
  ⟨name, none, .value fun path => !path.isEmpty⟩

/-- An option that is given or not. -/
def flagOption (name : String) : CommandOption := ⟨name, none, .flag⟩

/-- The names of log formats. -/
def LogFormat.ofName? : String → Option LogFormat
  | "text" => some text
  | "json" => some json
  | _ => none

/-- Options that may stand before or after any command. -/
def sharedOptions : List CommandOption :=
  [pathOption "config",
    ⟨"log-format", none, .value fun name => (LogFormat.ofName? name).isSome⟩,
    ⟨"verbose", some 'v', .count⟩, ⟨"help", some 'h', .help⟩]

/-- The command that asks for help. -/
def helpCommand : String := "help"

/-- The options of every command by its name. -/
def commandOptions : List (String × List CommandOption) :=
  [("init", [pathOption "data", textOption "repo-url", flagOption "force"]),
    ("append",
      [pathOption "data", pathOption "entry", textOption "tool", textOption "repo-url",
        flagOption "fail-on-alert", flagOption "skip-detect", flagOption "json"]),
    ("detect", [pathOption "data", pathOption "entry", flagOption "json"]),
    ("series",
      [pathOption "data", textOption "tool", textOption "name", flagOption "json"]),
    ("status", [⟨"detailed", some 'd', .flag⟩, pathOption "data"])]

/-- Name and version of the program. -/
def versionText : String := "benchwatch 0.1.1"

/-- How the program is called, a line for each command. -/
def usageText : String :=
  let optionText (option : CommandOption) : String :=
    " [--" ++ option.name
      ++ (match option.kind with | .value _ => " <" ++ option.name ++ ">]" | _ => "]")
  let commandLines := commandOptions.map fun (name, options) =>
    "  benchwatch " ++ name ++ String.join ((options ++ sharedOptions).map optionText) ++ "\n"
  "Usage:\n" ++ String.join commandLines

/-- What a command line may hold up to its command. -/
def programSyntax : LineSyntax where
  options := sharedOptions ++ [⟨"version", some 'V', .version⟩]
  commands := commandOptions.map Prod.fst ++ [helpCommand]

/-- What a command line may hold after a command. -/
def commandSyntax (options : List CommandOption) : LineSyntax where
  options := options ++ sharedOptions
  commands := []

-----------------------------------------------------------------------------------------
-- Commands
-----------------------------------------------------------------------------------------

namespace Command

/-- The value of an option that has to be given. -/
def required (given : Given) (name : String) : Except UsageError String :=
  match given.lookup name with
  | some value => .ok value
  | none => .error .missingOption

/-- The command of a name with the options that were given. Options that exclude each other
are judged before options that are missing.
-/
def ofGiven (name : String) (given : Given) : Except UsageError Command :=
  let data := given.lookup "data"
  match name with
  | "init" =>
      return .init
        { data, repoUrl := given.lookup "repo-url", force := given.has "force" }
  | "append" => do
      let failOnAlert := given.has "fail-on-alert"
      let skipDetect := given.has "skip-detect"
      if failOnAlert && skipDetect then throw .conflict
      return .append {
        data, entry := ← required given "entry", tool := given.lookup "tool",
        repoUrl := given.lookup "repo-url", failOnAlert, skipDetect,
        json := given.has "json"
      }
  | "detect" =>
      return .detect
        { data, entry := ← required given "entry", json := given.has "json" }
  | "series" =>
      return .series {
        data, tool := ← required given "tool", benchmark := ← required given "name",
        json := given.has "json"
      }
  | "status" => return .status { data, detailed := given.has "detailed" }
  | _ => throw .unknownCommand

end Command

namespace Invocation

/-- The arguments after the help command name at most one command. -/
def answerHelp : List String → UsageError
  | [] => .helpWanted
  | [name] => if name ∈ programSyntax.commands then .helpWanted else .unknownCommand
  | _ => .unknownCommand

/-- Greatest verbosity that is counted. -/
def verbosityLimit : Nat := 255

/-- The invocation with the options given before and after its command. A shared option after
the command takes the place of the same one before it.
-/
def ofGiven (before after : Given) (command : Command) : Invocation where
  config := (after.lookup "config").or (before.lookup "config")
  logFormat :=
    (((after.lookup "log-format").or (before.lookup "log-format")).bind
      LogFormat.ofName?).getD .text
  verbosity :=
    let last := if after.has "verbose" then after else before
    min verbosityLimit (last.count "verbose")
  command

/-- The invocation that the arguments of the program stand for. -/
def ofArguments (arguments : List String) : Except UsageError Invocation := do
  let line ← readLine programSyntax .start false arguments
  match line.command with
  | none =>
      let given ← line.state.settle
      throw (if given.isEmpty then .nothingGiven else .missingCommand)
  | some (name, rest) =>
      if name = helpCommand then throw (answerHelp rest)
      let options := (commandOptions.lookup name).getD []
      let inner ← readLine (commandSyntax options) .start false rest
      let after ← inner.state.settle
      let command ← Command.ofGiven name after
      let before ← line.state.settle
      return ofGiven before after command

end Invocation

end PerfLedger
