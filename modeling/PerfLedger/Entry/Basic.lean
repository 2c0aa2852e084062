import PerfLedger.Entry.Commit
import PerfLedger.Record.Draft

/-! Entries of the ledger: the records of one run of one tool on one commit. -/

namespace PerfLedger

-----------------------------------------------------------------------------------------
-- Entries
-----------------------------------------------------------------------------------------

/-- The result of one run. `date` is in milliseconds since the epoch. -/
structure Entry where
  commit : Commit
  date : Int
  tool : String
  records : List Record
  deriving DecidableEq, Inhabited

/-- Why an entry is refused. -/
inductive EntryError where
  | noRecords
  | malformedCommitId (id : String)
  | duplicateRecord (name : String)
  | blankTool
  | badRecord (index : Nat) (cause : RecordError)
  deriving DecidableEq, Inhabited

namespace EntryError

/-- The wording of a refused entry. -/
def message : EntryError → String
  | noRecords => "commit entry has an empty benchmark list"
  | malformedCommitId id =>
      s!"malformed commit id `{id}`: expected 40 or 64 hexadecimal characters"
  | duplicateRecord name => s!"benchmark `{name}` appears more than once in the same entry"
  | blankTool => "commit entry has an empty tool name"
  | badRecord index cause => s!"benchmark #{index} is invalid: {cause.message}"

end EntryError

/-- The first name that stands in a list for the second time. `seen` holds the names that
came before.
-/
def firstRepeated? (seen : List String) : List String → Option String
  | [] => none
  | name :: rest => if name ∈ seen then some name else firstRepeated? (name :: seen) rest

namespace Entry

/-- An entry of checked parts. The tool is judged first, then the commit id, then the list
of records.
-/
def create (commit : Commit) (date : Int) (tool : String) (records : List Record)
    : Except EntryError Entry :=
  if isBlankText tool then .error .blankTool
  else if !isCommitId commit.id then .error (.malformedCommitId commit.id)
  else if records.isEmpty then .error .noRecords
  else
    match firstRepeated? [] (records.map Record.name) with
    | some name => .error (.duplicateRecord name)
    | none => .ok { commit, date, tool, records }

/-- The record of a name. -/
def record? (e : Entry) (name : String) : Option Record :=
  e.records.find? fun r => r.name == name

/-- The object written for an entry. -/
def toJson (e : Entry) : Json :=
  .object
    [("commit", e.commit.toJson), ("date", .int e.date), ("tool", .text e.tool),
      ("benches", .array (e.records.map Record.toJson))]

end Entry

-----------------------------------------------------------------------------------------
-- Drafts
-----------------------------------------------------------------------------------------

/-- An entry that has been read but not checked. -/
structure EntryDraft where
  commit : Commit
  date : Int
  tool : String
  records : List RecordDraft
  deriving Inhabited

namespace EntryDraft

/-- An entry whose fields are being read. -/
structure Draft where
  commit : Option Commit := none
  date : Option Int := none
  tool : Option String := none
  records : Option (List RecordDraft) := none

/-- Reads one field of an entry; `depth` more containers may be nested in it. -/
def Draft.set (depth : Nat) (draft : Draft) (field : String) (tree : Tree)
    : Except ReadError Draft :=
  match field with
  | "commit" => return { draft with commit := some (← Commit.shape.read tree) }
  | "date" => return { draft with date := some (← tree.readInt64) }
  | "tool" => return { draft with tool := some (← tree.readText) }
  | "benches" =>
      return { draft with
        records := some (← tree.readList (RecordDraft.shape (depth - 1)).read) }
  | _ => return draft

/-- The draft of an entry, or the first field that is missing. -/
def Draft.finish (draft : Draft) : Except String EntryDraft := do
  let commit ← requireField "commit" draft.commit
  let date ← requireField "date" draft.date
  let tool ← requireField "tool" draft.tool
  let records ← requireField "benches" draft.records
  return { commit, date, tool, records }

/-- How an entry is read; `depth` more containers may be nested, its own included. -/
def shape (depth : Nat) : RecordShape Draft EntryDraft where
  title := "struct RawEntry"
  fields := ["commit", "date", "tool", "benches"]
  empty := {}
  set := Draft.set (depth - 1)
  finish := Draft.finish

/-- Checks drafts of records from the given index on; the first bad one is the error. -/
def checkRecords (index : Nat) : List RecordDraft → Except EntryError (List Record)
  | [] => .ok []
  | draft :: rest =>
      match draft.check with
      | .ok record => (record :: ·) <$> checkRecords (index + 1) rest
      | .error cause => .error (.badRecord index cause)

/-- The entry of a draft. Records are checked before anything else. -/
def check (draft : EntryDraft) : Except EntryError Entry := do
  let records ← checkRecords 0 draft.records
  Entry.create draft.commit draft.date draft.tool records

end EntryDraft

end PerfLedger
