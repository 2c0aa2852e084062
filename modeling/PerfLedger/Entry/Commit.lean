import PerfLedger.Json.Reading
import PerfLedger.Json.Printer

/-! The commits that are benchmarked, and the people named in them. -/

namespace PerfLedger

-----------------------------------------------------------------------------------------
-- People
-----------------------------------------------------------------------------------------

/-- An author or committer. -/
structure Person where
  email : String
  name : String
  username : Option String
  deriving DecidableEq, Inhabited

namespace Person

/-- The object written for a person; an absent username is left out. -/
def toJson (p : Person) : Json :=
  .object
    ([("email", .text p.email), ("name", .text p.name)]
      ++ Json.optional "username" (p.username.map .text))

/-- A person whose fields are being read. -/
structure Draft where
  email : Option String := none
  name : Option String := none
  username : Option String := none

/-- Reads one field of a person. -/
def Draft.set (draft : Draft) (field : String) (tree : Tree) : Except ReadError Draft :=
  match field with
  | "email" => return { draft with email := some (← tree.readText) }
  | "name" => return { draft with name := some (← tree.readText) }
  | "username" => return { draft with username := ← tree.readOptional Tree.readText }
  | _ => return draft

/-- The person of a draft, or the first field that is missing. -/
def Draft.finish (draft : Draft) : Except String Person := do
  let email ← requireField "email" draft.email
  let name ← requireField "name" draft.name
  return { email, name, username := draft.username }

/-- How a person is read. -/
def shape : RecordShape Draft Person where
  title := "struct Person"
  fields := ["email", "name", "username"]
  empty := {}
  set := Draft.set
  finish := Draft.finish

end Person

-----------------------------------------------------------------------------------------
-- Commits
-----------------------------------------------------------------------------------------

/-- The identity of a benchmarked commit. -/
structure Commit where
  author : Person
  committer : Person
  distinct : Option Bool
  id : String
  message : String
  timestamp : String
  treeId : Option String
  url : String
  deriving DecidableEq, Inhabited

/-- An ASCII hexadecimal digit. -/
def isHexDigit (c : Char) : Bool := (hexValue? c).isSome

/-- A full object name: 40 or 64 hexadecimal digits. -/
def isCommitId (id : String) : Bool :=
  let chars := id.toList
  (chars.length == 40 || chars.length == 64) && chars.all isHexDigit

/-- The characters that fill exactly `bytes` bytes at the start of a text. -/
def takeBytes? : (bytes : Nat) → List Char → Option (List Char)
  | 0, _ => some []
  | _ + 1, [] => none
  | bytes + 1, c :: rest =>
      if c.utf8Size ≤ bytes + 1 then
        (takeBytes? (bytes + 1 - c.utf8Size) rest).map (c :: ·)
      else
        none

namespace Commit

/-- Bytes of an abbreviated id. -/
def shortLength : Nat := 7

/-- The abbreviated id. An id that cannot be cut there is given whole. -/
def shortId (c : Commit) : String :=
  match takeBytes? shortLength c.id.toList with
  | some chars => String.ofList chars
  | none => c.id

/-- The object written for a commit; absent optional fields are left out. -/
def toJson (c : Commit) : Json :=
  .object
    ([("author", c.author.toJson), ("committer", c.committer.toJson)]
      ++ Json.optional "distinct" (c.distinct.map .bool)
      ++ [("id", .text c.id), ("message", .text c.message), ("timestamp", .text c.timestamp)]
      ++ Json.optional "tree_id" (c.treeId.map .text)
      ++ [("url", .text c.url)])

/-- A commit whose fields are being read. -/
structure Draft where
  author : Option Person := none
  committer : Option Person := none
  distinct : Option Bool := none
  id : Option String := none
  message : Option String := none
  timestamp : Option String := none
  treeId : Option String := none
  url : Option String := none

/-- Reads one field of a commit. -/
def Draft.set (draft : Draft) (field : String) (tree : Tree) : Except ReadError Draft :=
  match field with
  | "author" => return { draft with author := some (← Person.shape.read tree) }
  | "committer" => return { draft with committer := some (← Person.shape.read tree) }
  | "distinct" => return { draft with distinct := ← tree.readOptional Tree.readBool }
  | "id" => return { draft with id := some (← tree.readText) }
  | "message" => return { draft with message := some (← tree.readText) }
  | "timestamp" => return { draft with timestamp := some (← tree.readText) }
  | "tree_id" => return { draft with treeId := ← tree.readOptional Tree.readText }
  | "url" => return { draft with url := some (← tree.readText) }
  | _ => return draft

/-- The commit of a draft, or the first field that is missing. -/
def Draft.finish (draft : Draft) : Except String Commit := do
  let author ← requireField "author" draft.author
  let committer ← requireField "committer" draft.committer
  let id ← requireField "id" draft.id
  let message ← requireField "message" draft.message
  let timestamp ← requireField "timestamp" draft.timestamp
  let url ← requireField "url" draft.url
  return {
    author, committer, distinct := draft.distinct, id, message, timestamp,
    treeId := draft.treeId, url
  }

/-- How a commit is read. -/
def shape : RecordShape Draft Commit where
  title := "struct CommitInfo"
  fields :=
    ["author", "committer", "distinct", "id", "message", "timestamp", "tree_id", "url"]
  empty := {}
  set := Draft.set
  finish := Draft.finish

end Commit

end PerfLedger
