import PerfLedger.Toml.Scalar
import PerfLedger.Toml.Text

/-!
TOML documents as tables of settings. A document is read line by line into a tree that
remembers how each table was opened, because no table may be opened twice; the settings are
what remains when that is forgotten.
-/

namespace PerfLedger.Toml

-----------------------------------------------------------------------------------------
-- Trees
-----------------------------------------------------------------------------------------

/-- How a table came to be: by a header of its own, by a header of a table inside of it, by
a key with dots, or as a value in braces, which nothing is added to.
-/
inductive Origin where
  | header
  | implied
  | dotted
  | braces
  deriving DecidableEq, Repr

/-- What a name stands for while a document is read. The newest of a list of tables is apart
from the older ones.
-/
inductive Node where
  | scalar (value : Scalar)
  | list (items : List Node)
  | table (origin : Origin) (members : List (String × Node))
  | tables (newest : List (String × Node)) (older : List (List (String × Node)))

/-- Nodes by name, in the order of the document. -/
abbrev Members := List (String × Node)

/-- The members with a node under a name, in the place of an older one. -/
def Members.set (name : String) (node : Node) : Members → Members
  | [] => [(name, node)]
  | (other, old) :: rest =>
      if other = name then (name, node) :: rest else (other, old) :: Members.set name node rest

/-- The members without the one of a name. -/
def Members.erase (name : String) (members : Members) : Members :=
  members.filter fun member => member.1 != name

-----------------------------------------------------------------------------------------
-- Settings
-----------------------------------------------------------------------------------------

/-- A table stands for a date if this is the name of its first member, whose text is the date
then.
-/
def dateName : String := "$__toml_private_datetime"

/-- The date in the text that a node holds. -/
def Node.date? : Node → Option Setting
  | scalar (.text value) => (dateOf? value.toList).map .text
  | _ => none

mutual

/-- The setting that a node stands for, unless a table in it fails to be a date. -/
def Node.setting? : Node → Option Setting
  | .scalar value => some value.setting
  | .list items => (itemSettings? items).map .list
  | .table _ members => tableSetting? members
  | .tables newest older => do
      return .list (((← tableSetting? newest) :: (← tableSettings? older)).reverse)

/-- The settings that the items of a list stand for. -/
def itemSettings? : List Node → Option (List Setting)
  | [] => some []
  | node :: rest => do return (← node.setting?) :: (← itemSettings? rest)

/-- The setting that a table stands for. What follows the text of a date is ignored. -/
def tableSetting? : List (String × Node) → Option Setting
  | [] => some (.table [])
  | (name, node) :: rest =>
      if name = dateName then node.date?
      else do return .table ((name, ← node.setting?) :: (← memberSettings? rest))

/-- The settings that members stand for. -/
def memberSettings? : List (String × Node) → Option SettingTable
  | [] => some []
  | (name, node) :: rest => do return (name, ← node.setting?) :: (← memberSettings? rest)

/-- The settings that some tables stand for. -/
def tableSettings? : List (List (String × Node)) → Option (List Setting)
  | [] => some []
  | members :: rest => do return (← tableSetting? members) :: (← tableSettings? rest)

end

-----------------------------------------------------------------------------------------
-- Changes
-----------------------------------------------------------------------------------------

/-- Changes the table under a name, or a new one of the given origin. In a list of tables the
newest one is meant.
-/
def inTable (fresh : Origin) (name : String) (change : Members → Option Members)
    (members : Members) : Option Members :=
  match members.lookup name with
  | none => return members.set name (.table fresh (← change []))
  | some (.table .braces _) => none
  | some (.table origin inner) => return members.set name (.table origin (← change inner))
  | some (.tables newest older) => return members.set name (.tables (← change newest) older)
  | some _ => none

/-- Changes the table at the end of a path of headers. -/
def within (path : List String) (change : Members → Option Members)
    (members : Members) : Option Members :=
  match path with
  | [] => change members
  | name :: rest => inTable .implied name (within rest change) members

/-- Opens the table of a header, which stands where the header does. One that is only implied
so far may still be opened.
-/
def openTable (name : String) (members : Members) : Option Members :=
  match members.lookup name with
  | none => some (members.set name (.table .header []))
  | some (.table .implied inner) => some ((members.erase name).set name (.table .header inner))
  | some _ => none

/-- Opens a new table in a list of tables. -/
def openItem (name : String) (members : Members) : Option Members :=
  match members.lookup name with
  | none => some (members.set name (.tables [] []))
  | some (.tables newest older) => some (members.set name (.tables [] (newest :: older)))
  | some _ => none

/-- Gives a node to a key. The names before the last one lead through tables that were made
by keys with dots, and the last one has to be new.
-/
def give (node : Node) : (key : List String) → Members → Option Members
  | [], _ => none
  | [name], members =>
      if (members.lookup name).isSome then none else some (members.set name node)
  | name :: rest, members =>
      let isLast := rest.length = 1
      match members.lookup name with
      | some (.table .header _) => none
      | some (.table .implied _) =>
          if isLast then none else inTable .dotted name (give node rest) members
      | some (.tables ..) =>
          if isLast then none else inTable .dotted name (give node rest) members
      | _ => inTable .dotted name (give node rest) members

-----------------------------------------------------------------------------------------
-- Keys and blanks
-----------------------------------------------------------------------------------------

/-- A character of a name without quotes. -/
def isBareChar (c : Char) : Bool := c.isAlphanum || c = '_' || c = '-'

/-- Takes one name off a key. -/
def readName? (text : List Char) : Option (String × List Char) :=
  let bare := text.takeWhile isBareChar
  if bare.isEmpty then readLineText? text
  else some (String.ofList bare, text.dropWhile isBareChar)

/-- Most names that a key may have, and most lists and tables that may be nested in a value. -/
def maxDepth : Nat := 79

/-- Takes a key off a text: names with dots between them, and no more than `most`. -/
def readNames? : (most : Nat) → List Char → Option (List String × List Char)
  | 0, _ => none
  | most + 1, text => do
      let (name, rest) ← readName? (skipSpaces text)
      match skipSpaces rest with
      | '.' :: more => do
          let (names, rest) ← readNames? most more
          return (name :: names, rest)
      | rest => return ([name], rest)

/-- Takes a key off a text. -/
def readKey? (text : List Char) : Option (List String × List Char) := readNames? maxDepth text

/-- Skips a comment up to the end of its line. -/
def skipComment : List Char → Option (List Char)
  | [] => some []
  | '\n' :: rest => some ('\n' :: rest)
  | c :: rest => if isTextChar c then skipComment rest else none

/-- Skips what may stand after the end of a line's contents, up to the line end. -/
def finishLine? (text : List Char) : Option (List Char) := do
  let rest ←
    match skipSpaces text with
    | '#' :: comment => skipComment comment
    | rest => some rest
  match rest with
  | [] => return []
  | '\n' :: rest => return rest
  | _ => none

/-- Skips white space, line ends and comments. `fuel` bounds the number of lines. -/
def skipLines? : (fuel : Nat) → List Char → Option (List Char)
  | 0, _ => none
  | fuel + 1, text =>
      match skipSpaces text with
      | '\n' :: rest => skipLines? fuel rest
      | '#' :: comment => do skipLines? fuel (← skipComment comment)
      | rest => some rest

-----------------------------------------------------------------------------------------
-- Values
-----------------------------------------------------------------------------------------

mutual

/-- Reads a value, and what follows it. Up to `depth` lists and tables may be nested in it, and
`fuel` bounds the parts of it.
-/
def readValue? : (fuel depth : Nat) → List Char → Option (Node × List Char)
  | 0, _, _ => none
  | _ + 1, 0, '[' :: _ => none
  | _ + 1, 0, '{' :: _ => none
  | fuel + 1, depth + 1, '[' :: rest => readItems? fuel depth [] rest
  | fuel + 1, depth + 1, '{' :: rest =>
      match skipSpaces rest with
      | '}' :: rest => some (.table .braces [], rest)
      | rest => readPairs? fuel depth [] rest
  | _ + 1, _, text =>
      match text with
      | '"' :: _ => (readText? text).map fun (value, rest) => (.scalar (.text value), rest)
      | '\'' :: _ => (readText? text).map fun (value, rest) => (.scalar (.text value), rest)
      | _ =>
          let (token, rest) := takeToken text
          (Scalar.ofToken? token).map fun value => (.scalar value, rest)

/-- Reads the items of a list up to its end; `done` holds those before, the last one first. -/
def readItems? : (fuel depth : Nat) → List Node → List Char → Option (Node × List Char)
  | 0, _, _, _ => none
  | fuel + 1, depth, done, text => do
      match ← skipLines? (text.length + 1) text with
      | ']' :: rest => return (.list done.reverse, rest)
      | text => do
          let (item, rest) ← readValue? fuel depth text
          match ← skipLines? (rest.length + 1) rest with
          | ',' :: rest => readItems? fuel depth (item :: done) rest
          | ']' :: rest => return (.list (item :: done).reverse, rest)
          | _ => none

/-- Reads the pairs of a table inside of a line, up to its end. -/
def readPairs? : (fuel depth : Nat) → Members → List Char → Option (Node × List Char)
  | 0, _, _, _ => none
  | fuel + 1, depth, done, text => do
      let (key, rest) ← readKey? text
      let (node, rest) ← readValue? fuel depth (skipSpaces (← after? '=' rest))
      let done ← give node key done
      match skipSpaces rest with
      | ',' :: rest => readPairs? fuel depth done rest
      | '}' :: rest => return (.table .braces done, rest)
      | _ => none

end

-----------------------------------------------------------------------------------------
-- Documents
-----------------------------------------------------------------------------------------

/-- Opens the table at the end of a path with one of the two kinds of header. -/
def openAt? (opening : String → Members → Option Members) (path : List String)
    (root : Members) : Option Members := do
  within path.dropLast (opening (← path.getLast?)) root

/-- Reads the lines of a document. `here` is the path of the last header, and `fuel` bounds the
number of lines.
-/
def readLines?
    : (fuel : Nat) → (here : List String) → Members → List Char → Option Members
  | 0, _, _, _ => none
  | fuel + 1, here, root, text => do
      match ← skipLines? (text.length + 1) text with
      | [] => return root
      | '[' :: '[' :: rest => do
          let (path, rest) ← readKey? rest
          let rest ← finishLine? (← after? ']' (← after? ']' rest))
          readLines? fuel path (← openAt? openItem path root) rest
      | '[' :: rest => do
          let (path, rest) ← readKey? rest
          let rest ← finishLine? (← after? ']' rest)
          readLines? fuel path (← openAt? openTable path root) rest
      | text => do
          let (key, rest) ← readKey? text
          let value := skipSpaces (← after? '=' rest)
          let (node, rest) ← readValue? (value.length + 1) maxDepth value
          let root ← within here (give node key) root
          readLines? fuel here root (← finishLine? rest)

/-- The settings in a document, unless it is malformed. A date is not a document. -/
def parse? (document : String) : Option SettingTable := do
  let text := normalizeLines document.toList
  match ← tableSetting? (← readLines? (text.length + 1) [] [] text) with
  | .table settings => return settings
  | _ => none

end PerfLedger.Toml
