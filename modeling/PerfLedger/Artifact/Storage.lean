import PerfLedger.Artifact.Codec
import PerfLedger.Disk.Basic

/-!
The artifact on disk. A ledger is written to a temporary file that is then moved over the
artifact in one step, so that readers see the old artifact or the new one, and a failed run
leaves the old one in place.
-/

namespace PerfLedger

/-- Why an artifact cannot be read or written. -/
inductive StorageError where
  | io (path : String) (fault : DiskFault)
  | undecodable (path : String) (cause : DecodeError)
  | notFound (path : String)
  | alreadyExists (path : String)
  deriving DecidableEq, Inhabited

/-- The wording of an artifact that cannot be read or written. -/
def StorageError.message : StorageError → String
  | io path fault =>
      match fault.remark? with
      | some remark => s!"I/O error on {path}: {remark}"
      | none => s!"I/O error on {path}"
  | undecodable path cause => s!"cannot decode {path}: {cause.message}"
  | notFound path => s!"no benchmark data at {path}"
  | alreadyExists path => s!"benchmark data already exists at {path}"

/-- Why an update fails: the artifact cannot be read or written, or the change is rejected. -/
inductive UpdateError (ε : Type) where
  | storage (cause : StorageError)
  | rejected (cause : ε)
  deriving DecidableEq

namespace Artifact

variable {m : Type → Type} [Monad m] [Disk m]

/-- A result on disk, its fault raised to an error on a path. -/
def onPath {α : Type} (path : String) (operation : m (Except DiskFault α))
    : ExceptT StorageError m α := do
  match ← operation with
  | .ok value => return value
  | .error fault => throw (.io path fault)

/-- The ledger in the artifact at a path. -/
def load (path : String) : ExceptT StorageError m Ledger := do
  match ← (readText path : m _) with
  | .error .missing => throw (.notFound path)
  | .error fault => throw (.io path fault)
  | .ok text =>
      match Ledger.decode text with
      | .ok l => return l
      | .error cause => throw (.undecodable path cause)

/-- The ledger in the artifact at a path, or a new one when there is no artifact. -/
def loadOrNew (path repoUrl : String) : ExceptT StorageError m Ledger :=
  tryCatch (load path) fun
    | .notFound _ => return Ledger.new repoUrl
    | other => throw other

/-- Permission bits of an artifact: everybody may read it. -/
def publicMode : Nat := 0o644

/-- Fills a temporary file with a text. -/
def fill (temporary : Disk.Temporary m) (text : String) : ExceptT StorageError m Unit := do
  let path := Disk.pathOf temporary
  onPath path (Disk.setMode temporary publicMode)
  onPath path (Disk.write temporary text.toUTF8)
  onPath path (Disk.sync temporary)

/-- Writes a ledger to the artifact at a path. Directories that are missing are made, and a
temporary file that does not become the artifact is discarded.
-/
def save (path : String) (l : Ledger) : ExceptT StorageError m Unit := do
  let directory := Path.directoryOf path
  onPath directory (Disk.makeDirectories directory)
  let temporary ← onPath directory (Disk.createTemporary directory path : m _)
  tryCatch
    (do fill temporary l.encode
        onPath path (Disk.moveTo temporary path))
    (fun error => do
      let _ ← (Disk.discard temporary : m _)
      throw error)

/-- Writes an artifact without entries. One that is there already is kept, unless `force` is
set.
-/
def init (path repoUrl : String) (force : Bool) : ExceptT StorageError m Ledger := do
  if (← (Disk.isPresent path : m _)) && !force then throw (.alreadyExists path)
  let l := Ledger.new repoUrl
  save path l
  return l

/-- Changes the artifact at a path: the ledger is read, changed and written back. Without an
artifact the change starts from a new ledger, and a change that is rejected writes nothing.
-/
def update {ε α : Type} (path repoUrl : String)
    (change : Ledger → Except ε (α × Ledger))
    : ExceptT (UpdateError ε) m α := do
  let l ← (loadOrNew path repoUrl).adapt .storage
  match change l with
  | .error cause => throw (.rejected cause)
  | .ok (answer, l) =>
      (save path l).adapt .storage
      return answer

end Artifact

end PerfLedger
