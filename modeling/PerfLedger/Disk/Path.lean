/-!
Paths as texts. A path keeps the text it was given in, which is also how it is shown; what it
leads through are the names between its slashes.
-/

namespace PerfLedger.Path

/-- The pieces of a text between its slashes. There is always one more than slashes. -/
def segments : List Char → List (List Char)
  | [] => [[]]
  | c :: rest =>
      if c = '/' then [] :: segments rest
      else
        match segments rest with
        | first :: more => (c :: first) :: more
        | [] => [[c]]

/-- The text of some pieces with slashes between them. -/
def joined : List (List Char) → List Char
  | [] => []
  | [only] => only
  | first :: more => first ++ '/' :: joined more

/-- A piece that leads nowhere: nothing, or a single dot. -/
def isIdle (segment : List Char) : Bool := segment == [] || segment == ['.']

/-- The names that a path leads through. Two dots lead back. -/
def steps (path : String) : List String :=
  ((segments path.toList).filter fun segment => !isIdle segment).map String.ofList

/-- A path that ends in an idle piece leads to a directory or nowhere. -/
def demandsDirectory (path : String) : Bool :=
  match (segments path.toList).getLast? with
  | some last => isIdle last
  | none => false

/-- A path from the root. -/
def isAbsolute (path : String) : Bool := path.toList.head? == some '/'

/-- Most bytes of a name. -/
def maxNameBytes : Nat := 255

/-- Most bytes of a path. -/
def maxBytes : Nat := 4095

/-- A name that can be that of a file. -/
def isShortName (name : String) : Bool := name.utf8ByteSize ≤ maxNameBytes

/-- A path that is not too long to be followed. -/
def isShort (path : String) : Bool := path.utf8ByteSize ≤ maxBytes

/-- A path that no zero character ends early. -/
def isNamable (path : String) : Bool := path.toList.all (· != '\x00')

/-- Pieces without the idle ones at the end. The first piece stays: it tells the root or the
working directory.
-/
def settled : List (List Char) → List (List Char)
  | [] => []
  | first :: more => first :: (more.reverse.dropWhile isIdle).reverse

/-- The directory that holds what a path leads to; the working directory for a bare name. -/
def directoryOf (path : String) : String :=
  match settled (settled (segments path.toList)).dropLast with
  | [] => "."
  | [[]] => "/"
  | pieces => String.ofList (joined pieces)

/-- The name that a path ends in, if it does not lead back or nowhere. -/
def fileName? (path : String) : Option (List Char) :=
  (settled (segments path.toList)).getLast?.filter fun name =>
    !isIdle name && name != ['.', '.']

/-- The name at the end of a path has an ending, and something before it. -/
def hasEnding (path ending : String) : Bool :=
  (fileName? path).any fun name =>
    ending.toList.isSuffixOf name && ending.length < name.length

/-- A path with an ending put to the name at its end. -/
def withEnding? (path ending : String) : Option String :=
  (fileName? path).map fun _ =>
    String.ofList (joined (settled (segments path.toList))) ++ ending

end PerfLedger.Path
