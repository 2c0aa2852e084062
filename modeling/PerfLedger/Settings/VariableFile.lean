import PerfLedger.Text.Alphanumeric
import PerfLedger.Text.Blank

/-!
Files of variable assignments, one to a line. A value may be quoted, run over several lines
inside of quotes, and refer to variables with a dollar sign. Variables that are set already
keep their values.
-/

namespace PerfLedger

/-- Variables by name. -/
abbrev Environment := List (String × String)

namespace VariableFile

-----------------------------------------------------------------------------------------
-- Lines
-----------------------------------------------------------------------------------------

/-- Where the reader of a line stands: outside of quotes, right after a space, in quotes of
either kind, or after a backslash.
-/
inductive QuoteState where
  | bare
  | space
  | escape
  | single
  | singleEscape
  | double
  | doubleEscape
  deriving DecidableEq, Repr

/-- The state outside of quotes after a character. -/
def QuoteState.afterBare (c : Char) : QuoteState :=
  if c = '\\' then escape
  else if c = '"' then double
  else if c = '\'' then single
  else bare

/-- The state after a character. -/
def QuoteState.next : QuoteState → Char → QuoteState
  | bare, c => if isBlank c && c ≠ '\n' && c ≠ '\r' then space else afterBare c
  | space, c => afterBare c
  | escape, _ => bare
  | single, c => if c = '\\' then singleEscape else if c = '\'' then bare else single
  | singleEscape, _ => single
  | double, c => if c = '\\' then doubleEscape else if c = '"' then bare else double
  | doubleEscape, _ => double

/-- The state at the end of a line, and the part of the line before a comment if one starts
in it.
-/
def scanLine : QuoteState → List Char → QuoteState × Option (List Char)
  | state, [] => (state, none)
  | .space, '#' :: _ => (.bare, some [])
  | state, c :: rest =>
      let (last, before) := scanLine (state.next c) rest
      (last, before.map (c :: ·))

/-- The lines of a text, each with its line feed. -/
def linesOf : List Char → List (List Char)
  | [] => []
  | '\n' :: rest => ['\n'] :: linesOf rest
  | c :: rest =>
      match linesOf rest with
      | [] => [[c]]
      | line :: more => (c :: line) :: more

/-- A line without its end. -/
def chopLine (line : List Char) : List Char :=
  match line.reverse with
  | '\n' :: '\r' :: rest => rest.reverse
  | '\n' :: rest => rest.reverse
  | _ => line

/-- The assignments of some lines, without comments. Lines are joined while quotes are open;
the text may not end inside of an assignment, nor after a space.
-/
def joinLines (begun : List Char) (state : QuoteState)
    : List (List Char) → Option (List (List Char))
  | [] => if state = .bare then some [] else none
  | line :: more =>
      let text := begun ++ line
      if (trimStart text).head? = some '#' then joinLines [] .bare more
      else
        match scanLine state line with
        | (_, some before) => (joinLines [] .bare more).map ((begun ++ before) :: ·)
        | (.bare, none) => (joinLines [] .bare more).map (chopLine text :: ·)
        | (state, none) => joinLines text state more

-----------------------------------------------------------------------------------------
-- Values
-----------------------------------------------------------------------------------------

/-- Where the reader of a value stands, besides being in double quotes or not: in plain text,
in single quotes, after a backslash, after the value, or in the name of a variable.
-/
inductive ValueState where
  | plain
  | quoted
  | escape
  | finished
  | name (braced : Bool) (letters : List Char)
  deriving DecidableEq, Repr

/-- The value of a variable as characters, none when it is not set. -/
def valueOf (environment : Environment) (name : List Char) : List Char :=
  ((environment.lookup (String.ofList name)).getD "").toList

/-- Reads a value. `inQuotes` tells whether double quotes are open. -/
def readValue? (environment : Environment) (inQuotes : Bool)
    : ValueState → List Char → Option (List Char)
  | .plain, [] => if inQuotes then none else some []
  | .escape, [] => if inQuotes then none else some []
  | .finished, [] => if inQuotes then none else some []
  | .quoted, [] => none
  | .name braced letters, [] =>
      if braced || inQuotes then none else some (valueOf environment letters)
  | .finished, c :: rest =>
      if c = ' ' || c = '\t' then readValue? environment inQuotes .finished rest
      else if c = '#' then some []
      else none
  | .escape, c :: rest => do
      let meant ←
        if c = 'n' then some '\n'
        else if c = '\\' || c = '\'' || c = '"' || c = '$' || c = ' ' then some c
        else none
      return meant :: (← readValue? environment inQuotes .plain rest)
  | .quoted, c :: rest =>
      if c = '\'' then readValue? environment inQuotes .plain rest
      else (readValue? environment inQuotes .quoted rest).map (c :: ·)
  | .name braced letters, c :: rest =>
      if isAlphanumeric c || (braced && c ≠ '\x7d') then
        readValue? environment inQuotes (.name braced (letters ++ [c])) rest
      else if braced then
        (readValue? environment inQuotes .plain rest).map (valueOf environment letters ++ ·)
      else if c = '\x7b' && letters.isEmpty then
        readValue? environment inQuotes (.name true []) rest
      else if c = '$' then
        (readValue? environment inQuotes (.name false []) rest).map
          (valueOf environment letters ++ ·)
      else
        (readValue? environment inQuotes .plain rest).map
          (valueOf environment letters ++ c :: ·)
  | .plain, c :: rest =>
      if c = '$' then readValue? environment inQuotes (.name false []) rest
      else if c = '\\' then readValue? environment inQuotes .escape rest
      else if c = '"' then readValue? environment (!inQuotes) .plain rest
      else if inQuotes then (readValue? environment inQuotes .plain rest).map (c :: ·)
      else if c = '\'' then readValue? environment inQuotes .quoted rest
      else if c = ' ' || c = '\t' then readValue? environment inQuotes .finished rest
      else (readValue? environment inQuotes .plain rest).map (c :: ·)

-----------------------------------------------------------------------------------------
-- Assignments
-----------------------------------------------------------------------------------------

/-- Takes the name of a variable off a text, and the blanks after it. -/
def takeName? (text : List Char) : Option (String × List Char) :=
  let isNamePart (c : Char) : Bool := c.isAlphanum || c = '_' || c = '.'
  match text with
  | first :: _ =>
      if first.isAlpha || first = '_' then
        some (String.ofList (text.takeWhile isNamePart),
          trimStart (text.dropWhile isNamePart))
      else none
  | [] => none

/-- The name of an assignment and the text after its equals sign. The word `export` may stand
in front.
-/
def splitAssignment? (text : List Char) : Option (String × List Char) := do
  let (name, rest) ← takeName? text
  match rest with
  | '=' :: value => return (name, trimStart value)
  | rest =>
      if name ≠ "export" then none
      match ← takeName? rest with
      | (name, '=' :: value) => return (name, trimStart value)
      | _ => none

/-- The variables after one more line. A blank line changes nothing, and blanks at the end of
a line mean nothing.
-/
def assignLine (environment : Environment) (line : List Char) : Option Environment :=
  match trim line with
  | [] => some environment
  | '#' :: _ => some environment
  | text => do
      let (name, rest) ← splitAssignment? text
      let value ←
        match rest with
        | [] => some []
        | '#' :: _ => some []
        | rest => readValue? environment false .plain rest
      if (environment.lookup name).isSome then return environment
      return environment ++ [(name, String.ofList value)]

end VariableFile

/-- The variables after all assignments of a file, unless one is malformed. -/
def Environment.extend? (environment : Environment) (text : String) : Option Environment := do
  let lines ←
    VariableFile.joinLines [] .bare (VariableFile.linesOf (withoutMark text.toList))
  lines.foldlM VariableFile.assignLine environment
where
  withoutMark : List Char → List Char
    | '\uFEFF' :: rest => rest
    | rest => rest

end PerfLedger
