import PerfLedger.Artifact.Script
import PerfLedger.Ledger.Basic

/-!
The artifact that holds a ledger, and documents that hold a single entry. Reading checks
everything: it gives a complete ledger or the first thing that is wrong.
-/

namespace PerfLedger

-----------------------------------------------------------------------------------------
-- Drafts of ledgers
-----------------------------------------------------------------------------------------

/-- A ledger that has been read but not checked. Series are sorted by tool. -/
structure LedgerDraft where
  lastUpdate : Int
  repoUrl : String
  series : List (String × List EntryDraft)
  deriving Inhabited

namespace LedgerDraft

/-- A ledger whose fields are being read. -/
structure Draft where
  lastUpdate : Option Int := none
  repoUrl : Option String := none
  series : Option (List (String × List EntryDraft)) := none

/-- Adds one series to those that were read. A repeated tool is refused at its name. -/
def addSeries (depth : Nat) (done : List (String × List EntryDraft))
    (member : Option String × Tree)
    : Except ReadError (List (String × List EntryDraft)) := do
  let tool ← readName member.1
  if (done.lookup tool).isSome then ShapeError.fail (.duplicateSeries tool)
  let entries ← member.2.readList (EntryDraft.shape (depth - 1)).read
  return insertSorted tool entries done

/-- Reads the series of all tools; `depth` more containers may be nested in the map. -/
def readSeries (depth : Nat) : Tree → Except ReadError (List (String × List EntryDraft))
  | .object members closing => do
      let series ← members.foldlM (addSeries depth) []
      requireNoFault closing.fault?
      return series
  | other => other.mismatch "a map of tool names to entry lists"

/-- Reads one field of a ledger; `depth` more containers may be nested in it. -/
def Draft.set (depth : Nat) (draft : Draft) (field : String) (tree : Tree)
    : Except ReadError Draft :=
  match field with
  | "lastUpdate" => return { draft with lastUpdate := some (← tree.readInt64) }
  | "repoUrl" => return { draft with repoUrl := some (← tree.readText) }
  | "entries" => return { draft with series := some (← readSeries (depth - 1) tree) }
  | _ => return draft

/-- The draft of a ledger, or the first field that is missing. -/
def Draft.finish (draft : Draft) : Except String LedgerDraft := do
  let lastUpdate ← requireField "lastUpdate" draft.lastUpdate
  let repoUrl ← requireField "repoUrl" draft.repoUrl
  let series ← requireField "entries" draft.series
  return { lastUpdate, repoUrl, series }

/-- How a ledger is read; `depth` more containers may be nested, its own included. -/
def shape (depth : Nat) : RecordShape Draft LedgerDraft where
  title := "struct RawStore"
  fields := ["lastUpdate", "repoUrl", "entries"]
  empty := {}
  set := Draft.set (depth - 1)
  finish := Draft.finish

end LedgerDraft

-----------------------------------------------------------------------------------------
-- Checking
-----------------------------------------------------------------------------------------

/-- Why a text holds no ledger. -/
inductive DecodeError where
  | unreadable (cause : ReadError)
  | badEntry (tool : String) (index : Nat) (cause : EntryError)
  | refused (cause : AppendError)
  deriving DecidableEq, Inhabited

namespace DecodeError

/-- The wording of a text that holds no ledger. Faults of the JSON are not told apart. -/
def message : DecodeError → String
  | unreadable (.json _) => "artifact is not valid JSON"
  | unreadable (.shape problem) => s!"artifact schema error: {problem.message}"
  | badEntry tool index cause =>
      s!"entry #{index} of tool `{tool}` is invalid: {cause.message}"
  | refused cause => s!"artifact violates ledger invariants: {cause.message}"

end DecodeError

namespace LedgerDraft

/-- Records the entries of one series from the given index on. -/
def checkEntries (tool : String) (index : Nat) (l : Ledger)
    : List EntryDraft → Except DecodeError Ledger
  | [] => .ok l
  | draft :: rest =>
      if draft.tool ≠ tool then
        .error (.unreadable (.shape (.foreignTool index tool draft.tool)))
      else
        match draft.check with
        | .error cause => .error (.badEntry tool index cause)
        | .ok entry =>
            match l.append tool entry with
            | .error cause => .error (.refused cause)
            | .ok l => checkEntries tool (index + 1) l rest

/-- The ledger of a draft. Tools are visited in order, and the entries of each in theirs;
the last update is never older than the newest entry.
-/
def check (draft : LedgerDraft) : Except DecodeError Ledger := do
  let l ← draft.series.foldlM
    (fun l (tool, entries) => checkEntries tool 0 l entries) (Ledger.new draft.repoUrl)
  return { l with lastUpdate := max l.lastUpdate draft.lastUpdate }

end LedgerDraft

-----------------------------------------------------------------------------------------
-- Texts
-----------------------------------------------------------------------------------------

/-- Raises a problem of reading to one of decoding. -/
def orUnreadable {α : Type} : Except ReadError α → Except DecodeError α
  | .ok value => .ok value
  | .error cause => .error (.unreadable cause)

namespace Ledger

/-- The text of an artifact that holds a ledger. -/
def encode (l : Ledger) : String := Artifact.scriptHead ++ l.toJson.pretty

/-- The ledger in the text of an artifact. -/
def decode (text : String) : Except DecodeError Ledger := do
  let payload ← orUnreadable (Artifact.payload text.toList)
  let draft ← orUnreadable (readDocument (LedgerDraft.shape maxDepth).read payload)
  draft.check

end Ledger

namespace Entry

/-- The text of a document that holds one entry. -/
def encode (e : Entry) : String := e.toJson.pretty

/-- The entry in the text of a document. -/
def decode (text : String) : Except DecodeError Entry := do
  let draft ← orUnreadable (readDocument (EntryDraft.shape maxDepth).read (trim text.toList))
  match draft.check with
  | .ok entry => return entry
  | .error cause => throw (.badEntry draft.tool 0 cause)

end Entry

end PerfLedger
