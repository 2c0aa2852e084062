import PerfLedger.Entry.Basic

/-!
The ledger: for every tool, the entries of its runs in the order in which they were recorded.
Entries are only ever added at the end of a series.
-/

namespace PerfLedger

/-- The benchmark history of one repository. Series are sorted by tool. -/
structure Ledger where
  lastUpdate : Int
  repoUrl : String
  series : List (String × List Entry)
  deriving DecidableEq, Inhabited

/-- Why an entry cannot be added to a series. -/
inductive AppendError where
  | duplicateCommit (tool commitId : String)
  | toolMismatch (series entryTool : String)
  deriving DecidableEq, Inhabited

/-- The wording of a refused addition. -/
def AppendError.message : AppendError → String
  | duplicateCommit tool commitId =>
      s!"commit {commitId} is already recorded for tool `{tool}`"
  | toolMismatch series entryTool =>
      s!"entry produced by tool `{entryTool}` cannot be appended to series `{series}`"

namespace Ledger

/-- A ledger without entries. -/
def new (repoUrl : String) : Ledger := { lastUpdate := 0, repoUrl, series := [] }

/-- The tools that have entries, in order. -/
def tools (l : Ledger) : List String := l.series.map Prod.fst

/-- The entries of a tool, oldest first. A tool without a series has none. -/
def entriesOf (l : Ledger) (tool : String) : List Entry := (l.series.lookup tool).getD []

/-- The entry of a tool that was added last. -/
def latest? (l : Ledger) (tool : String) : Option Entry := (l.entriesOf tool).getLast?

/-- A commit is recorded for a tool. -/
def hasCommit (l : Ledger) (tool commitId : String) : Bool :=
  (l.entriesOf tool).any fun e => e.commit.id == commitId

/-- Number of entries of all tools. -/
def size (l : Ledger) : Nat := (l.series.flatMap Prod.snd).length

/-- No tool has a series. -/
def isEmpty (l : Ledger) : Bool := l.series.isEmpty

/-- The name and value of a benchmark over some entries, those without it left out. -/
def pointsOf (name : String) (entries : List Entry) : List (Int × Double) :=
  entries.filterMap fun e => (e.record? name).map fun r => (e.date, r.value)

/-- Dates and values of a benchmark of a tool, oldest first. -/
def points (l : Ledger) (tool name : String) : List (Int × Double) :=
  pointsOf name (l.entriesOf tool)

/-- The points of a benchmark from the entries before a commit, or from all entries when the
commit is not recorded.
-/
def pointsBefore (l : Ledger) (tool name commitId : String) : List (Int × Double) :=
  pointsOf name ((l.entriesOf tool).takeWhile fun e => e.commit.id != commitId)

/-- Adds a name to a sorted list of names, once. -/
def insertName (name : String) : List String → List String
  | [] => [name]
  | other :: rest =>
      if name < other then name :: other :: rest
      else if name = other then other :: rest
      else other :: insertName name rest

/-- Every benchmark that was recorded for a tool, sorted. -/
def names (l : Ledger) (tool : String) : List String :=
  ((l.entriesOf tool).flatMap fun e => e.records.map Record.name).foldr insertName []

/-- Adds an entry to the series of its tool; a new series takes its place in the order. -/
def extend (entry : Entry) : List (String × List Entry) → List (String × List Entry)
  | [] => [(entry.tool, [entry])]
  | (tool, entries) :: rest =>
      if entry.tool < tool then (entry.tool, [entry]) :: (tool, entries) :: rest
      else if entry.tool = tool then (tool, entries ++ [entry]) :: rest
      else (tool, entries) :: extend entry rest

/-- Records an entry in the series of `tool`. A foreign entry is refused before a repeated
commit, and a refused entry changes nothing.
-/
def append (l : Ledger) (tool : String) (entry : Entry) : Except AppendError Ledger :=
  if entry.tool ≠ tool then .error (.toolMismatch tool entry.tool)
  else if l.hasCommit tool entry.commit.id then
    .error (.duplicateCommit tool entry.commit.id)
  else
    .ok { l with
      lastUpdate := max l.lastUpdate entry.date
      series := extend entry l.series }

/-- The object written for a ledger. -/
def toJson (l : Ledger) : Json :=
  .object
    [("lastUpdate", .int l.lastUpdate), ("repoUrl", .text l.repoUrl),
      ("entries",
        .object (l.series.map fun (tool, entries) =>
          (tool, .array (entries.map Entry.toJson))))]

end Ledger

end PerfLedger
