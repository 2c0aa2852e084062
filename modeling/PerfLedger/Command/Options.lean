/-!
Options on a command line. Options may stand in any order, their values in the next argument
or after an equals sign, and options of one letter may be joined. The first problem from the
left ends the reading, except that the value of an option is judged only once the next option
or the end of the line is reached.
-/

namespace PerfLedger

-----------------------------------------------------------------------------------------
-- Syntax
-----------------------------------------------------------------------------------------

/-- Why a command line is not run: help or the version is wanted, or it is not understood. -/
inductive UsageError where
  | helpWanted
  | versionWanted
  | nothingGiven
  | unknownCommand
  | missingCommand
  | unknownArgument
  | badValue
  | unexpectedValue
  | missingOption
  | conflict
  deriving DecidableEq, Repr, Inhabited

/-- Exit status of a command line that is not run. -/
def UsageError.exitCode : UsageError → Nat
  | helpWanted => 0
  | versionWanted => 0
  | _ => 2

/-- What an option does. A flag and a value may be given once, and a count any number of times;
`accepts` tells the values that are allowed.
-/
inductive OptionKind where
  | flag
  | count
  | value (accepts : String → Bool)
  | help
  | version

/-- An option with its long name, without dashes, and its letter if it has one. -/
structure CommandOption where
  name : String
  letter : Option Char
  kind : OptionKind

/-- What a command line may hold: options, and the commands that may follow them. -/
structure LineSyntax where
  options : List CommandOption
  commands : List String

/-- The options that were given, in order, each with its value. -/
abbrev Given := List (String × String)

namespace Given

/-- An option was given. -/
def has (given : Given) (name : String) : Bool := (given.lookup name).isSome

/-- Number of times that an option was given. -/
def count (given : Given) (name : String) : Nat :=
  (given.filter fun option => option.1 == name).length

end Given

-----------------------------------------------------------------------------------------
-- Reading
-----------------------------------------------------------------------------------------

/-- An option whose value is not judged yet, or has not even been seen. -/
structure Pending where
  name : String
  accepts : String → Bool
  value : Option String

/-- What has been read of a command line. -/
structure LineState where
  given : Given
  pending : Option Pending

namespace LineState

/-- Nothing has been read. -/
def start : LineState := ⟨[], none⟩

/-- The next argument is the value of an option, unless it looks like an option itself. -/
def awaitsValue (s : LineState) : Bool :=
  match s.pending with
  | some pending => pending.value.isNone
  | none => false

/-- Adds an option that may be given only once. -/
def addOnce (given : Given) (name value : String) : Except UsageError Given :=
  if given.has name then .error .conflict else .ok (given ++ [(name, value)])

/-- Judges the pending option. -/
def settle (s : LineState) : Except UsageError Given :=
  match s.pending with
  | none => .ok s.given
  | some ⟨_, _, none⟩ => .error .badValue
  | some ⟨name, accepts, some value⟩ => do
      let given ← addOnce s.given name value
      if accepts value then return given else throw .badValue

/-- Takes an option without a value. -/
def takeOption (s : LineState) (option : CommandOption) : Except UsageError LineState := do
  let given ← s.settle
  match option.kind with
  | .flag => return ⟨← addOnce given option.name "", none⟩
  | .count => return ⟨given ++ [(option.name, "")], none⟩
  | .value accepts => return ⟨given, some ⟨option.name, accepts, none⟩⟩
  | .help => throw .helpWanted
  | .version => throw .versionWanted

/-- Takes an option together with a value. -/
def takeOptionWith (s : LineState) (option : CommandOption) (value : String)
    : Except UsageError LineState :=
  match option.kind with
  | .value accepts => do
      let given ← s.settle
      return ⟨← settle ⟨given, some ⟨option.name, accepts, some value⟩⟩, none⟩
  | _ => .error .unexpectedValue

/-- Takes an argument that starts with two dashes, which are left out of `text`. -/
def takeLong (syntaxOf : LineSyntax) (s : LineState) (text : List Char)
    : Except UsageError LineState :=
  let name := String.ofList (text.takeWhile (· != '='))
  match syntaxOf.options.find? fun option => option.name == name with
  | none => .error .unknownArgument
  | some option =>
      match text.dropWhile (· != '=') with
      | _ :: value => s.takeOptionWith option (String.ofList value)
      | [] => s.takeOption option

/-- Takes the letters of an argument that starts with one dash. -/
def takeLetters (syntaxOf : LineSyntax) (s : LineState)
    : List Char → Except UsageError LineState
  | [] => .ok s
  | letter :: rest =>
      match syntaxOf.options.find? fun option => option.letter == some letter with
      | none => .error .unknownArgument
      | some option => do takeLetters syntaxOf (← s.takeOption option) rest

/-- Takes the value of the pending option. -/
def takeValue (s : LineState) (value : String) : LineState :=
  { s with pending := s.pending.map fun pending => { pending with value := some value } }

end LineState

/-- A command line that has been read up to a command or to its end. -/
structure ReadLine where
  state : LineState
  command : Option (String × List String)

/-- What an argument that has no place comes to. After two dashes nothing can be a command. -/
def misplaced (syntaxOf : LineSyntax) (onlyPlain : Bool) (argument : String) : UsageError :=
  if syntaxOf.commands.isEmpty || (onlyPlain && argument ∈ syntaxOf.commands) then
    .unknownArgument
  else
    .unknownCommand

/-- Reads a command line from the left. `onlyPlain` tells that two dashes stood alone before,
after which no argument is an option.
-/
def readLine (syntaxOf : LineSyntax) (s : LineState) (onlyPlain : Bool)
    : List String → Except UsageError ReadLine
  | [] => .ok ⟨s, none⟩
  | argument :: rest =>
      if onlyPlain then .error (misplaced syntaxOf true argument)
      else if !s.awaitsValue && argument ∈ syntaxOf.commands then
        .ok ⟨s, some (argument, rest)⟩
      else
        match argument.toList with
        | ['-', '-'] => readLine syntaxOf s true rest
        | '-' :: '-' :: text => do readLine syntaxOf (← s.takeLong syntaxOf text) false rest
        | '-' :: first :: letters => do
            readLine syntaxOf (← s.takeLetters syntaxOf (first :: letters)) false rest
        | _ =>
            if s.awaitsValue then readLine syntaxOf (s.takeValue argument) false rest
            else .error (misplaced syntaxOf false argument)

end PerfLedger
