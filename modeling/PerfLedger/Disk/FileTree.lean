import PerfLedger.Disk.Basic

/-!
A tree of files in memory, and the operations of a disk on it. The tree holds what is below
the working directory, a temporary one. Outside of it there are only the directories above,
and nothing can be made there.
-/

namespace PerfLedger

-----------------------------------------------------------------------------------------
-- Trees
-----------------------------------------------------------------------------------------

attribute [local instance(2000)] ByteArray.instDecidableEq

/-- A file or a directory. `mode` holds the permission bits of a file. -/
inductive FileNode where
  | file (mode : Nat) (bytes : ByteArray)
  | directory
  deriving DecidableEq, Inhabited

/-- A place in a tree: the names that lead to it from the working directory. -/
abbrev Place := List String

/-- Files and directories below the working directory. -/
structure FileTree where
  nodes : List (Place × FileNode)
  deriving DecidableEq, Inhabited

namespace FileTree

/-- A tree without files. -/
def empty : FileTree := ⟨[]⟩

/-- What is at a place. -/
def node? (t : FileTree) : Place → Option FileNode
  | [] => some .directory
  | place => t.nodes.lookup place

/-- The tree with nothing at a place. -/
def erase (t : FileTree) (place : Place) : FileTree :=
  ⟨t.nodes.filter fun entry => entry.1 != place⟩

/-- The tree with a node at a place, whatever was there before. -/
def put (t : FileTree) (place : Place) (node : FileNode) : FileTree :=
  ⟨(place, node) :: (t.erase place).nodes⟩

-----------------------------------------------------------------------------------------
-- Paths
-----------------------------------------------------------------------------------------

/-- The names that lead from the root to the working directory. -/
def home : List String := ["tmp", ".tmp000000"]

/-- A path from the root. -/
def fullPath (path : String) : String :=
  if Path.isAbsolute path then path else "/" ++ "/".intercalate (home ++ [path])

/-- The steps of a path from the working directory, unless the path starts elsewhere. -/
def stepsFromHome? (path : String) : Option (List String) :=
  if Path.isAbsolute path then home.isPrefixOf? (Path.steps path) else some (Path.steps path)

/-- The place one step away. -/
def move (here : Place) (step : String) : Place :=
  if step = ".." then here.dropLast else here ++ [step]

/-- The place at the end of steps from above the working directory. If they lead only up, it
is a directory; like the working directory it is neither read nor replaced. Other names are
not there, unless they are too long to be looked for.
-/
def above (steps : List String) : Except DiskFault Place :=
  match steps.dropWhile (· == "..") with
  | [] => .ok []
  | name :: _ => .error (if Path.isShortName name then .missing else .refused)

/-- The place at the end of some steps. Every place on the way has to be a directory, and no
name may be too long.
-/
def follow (t : FileTree) (here : Place) : List String → Except DiskFault Place
  | [] => .ok here
  | step :: rest =>
      match t.node? here with
      | some .directory =>
          if here.isEmpty && step == ".." then above rest
          else if Path.isShortName step then follow t (move here step) rest
          else .error .refused
      | some (.file ..) => .error .refused
      | none => .error .missing

/-- The place that a path leads to. -/
def locate (t : FileTree) (path : String) : Except DiskFault Place :=
  if !Path.isNamable path then .error .unnamable
  else if !Path.isShort path then .error .refused
  else if path.isEmpty then .error .missing
  else
    match stepsFromHome? path with
    | some steps => t.follow [] steps
    | none => above (Path.steps path)

/-- What a path leads to. -/
def find (t : FileTree) (path : String) : Except DiskFault FileNode := do
  match t.node? (← t.locate path) with
  | some (.file mode bytes) =>
      if Path.demandsDirectory path then .error .refused else .ok (.file mode bytes)
  | some .directory => .ok .directory
  | none => .error .missing

/-- The bytes of the file that a path leads to. -/
def read (t : FileTree) (path : String) : Except DiskFault ByteArray := do
  match ← t.find path with
  | .file _ bytes => .ok bytes
  | .directory => .error .refused

-----------------------------------------------------------------------------------------
-- Changes
-----------------------------------------------------------------------------------------

/-- Makes the directories at the end of some steps and on the way there. Those made before a
fault stay.
-/
def makeSteps (t : FileTree) (here : Place) : List String → Except DiskFault Unit × FileTree
  | [] => (.ok (), t)
  | step :: rest =>
      let there := move here step
      if here.isEmpty && step == ".." then (discard (above rest), t)
      else if Path.isShortName step then
        match t.node? there with
        | some .directory => makeSteps t there rest
        | some (.file ..) => (.error .refused, t)
        | none => makeSteps (t.put there .directory) there rest
      else
        (.error .refused, t)

/-- Makes a directory and those above it; there is nothing to do where they are already. -/
def makeDirectories (t : FileTree) (path : String) : Except DiskFault Unit × FileTree :=
  if !Path.isNamable path then (.error .unnamable, t)
  else if !Path.isShort path then (.error .refused, t)
  else
    match stepsFromHome? path with
    | some steps => t.makeSteps [] steps
    | none => (discard (above (Path.steps path)), t)

/-- A name that is longer than all of some names. -/
def freshName (names : List String) : String :=
  ".tmp" ++ String.ofList (List.replicate (names.flatMap String.toList).length 'x')

/-- What the name of a temporary file adds to the path of its directory. -/
def temporaryEnding : String := "/.tmp000000"

/-- The place of a new file in a directory, neither taken nor that of the target. The full path
of a temporary file may not be too long.
-/
def freshPlace (t : FileTree) (directory target : String) : Except DiskFault Place := do
  if !Path.isShort (fullPath directory ++ temporaryEnding) then .error .refused
  let place ← t.locate directory
  match t.node? place with
  | some .directory =>
      .ok (place ++ [freshName (Path.steps target ++ t.nodes.flatMap Prod.fst)])
  | _ => .error .refused

/-- Changes the file at a place. -/
def adjust (t : FileTree) (place : Place) (change : Nat → ByteArray → FileNode)
    : Except DiskFault FileTree :=
  match t.node? place with
  | some (.file mode bytes) => .ok (t.put place (change mode bytes))
  | _ => .error .refused

/-- Moves a file from a place to the end of a path in one step. A file there is replaced, a
directory is not, and what is wrong with the path is not told.
-/
def moveTo (t : FileTree) (place : Place) (path : String) : Except DiskFault FileTree := do
  if !Path.isNamable path || Path.demandsDirectory path then .error .refused
  let target ← t.locate path
  match t.node? target, t.node? place with
  | some .directory, _ => .error .refused
  | _, some (.file mode bytes) => .ok ((t.erase place).put target (.file mode bytes))
  | _, _ => .error .refused

-----------------------------------------------------------------------------------------
-- The disk
-----------------------------------------------------------------------------------------

/-- A computation on a tree of files. -/
abbrev Run := StateM FileTree

/-- Takes over a changed tree; after a fault the tree is as before. -/
def commit (change : FileTree → Except DiskFault FileTree) : Run (Except DiskFault Unit) :=
  fun t =>
    match change t with
    | .ok t => (.ok (), t)
    | .error fault => (.error fault, t)

/-- Permission bits of a temporary file: nobody but its owner has access. -/
def privateMode : Nat := 0o600

instance : Disk Run where
  Temporary := Place
  pathOf place := fullPath ("/".intercalate place)
  fullPath path := return fullPath path
  readFile path := fun t => (t.read path, t)
  isPresent path := fun t => ((t.find path).toOption.isSome, t)
  isFile path := fun t => ((t.read path).toOption.isSome, t)
  findUpward name := fun t => (if (t.read name).toOption.isSome then some name else none, t)
  makeDirectories path := fun t => t.makeDirectories path
  createTemporary directory target := fun t =>
    match t.freshPlace directory target with
    | .ok place => (.ok place, t.put place (.file privateMode ByteArray.empty))
    | .error fault => (.error fault, t)
  setMode place mode := commit fun t => t.adjust place fun _ bytes => .file mode bytes
  write place bytes := commit fun t => t.adjust place fun mode _ => .file mode bytes
  sync place := commit fun t => t.adjust place .file
  moveTo place path := commit fun t => t.moveTo place path
  discard place := fun t => ((), t.erase place)

end FileTree

end PerfLedger
