import PerfLedger.Artifact.Storage
import PerfLedger.Settings.Basic

/-!
Failures of commands. A failure is shown with everything that led to it, from the outside in;
an error that words its cause too is followed by that cause all the same.
-/

namespace PerfLedger

/-- An entry that is refused, and its cause. -/
def EntryError.trail (error : EntryError) : List String :=
  match error with
  | badRecord _ cause => [error.message, cause.message]
  | _ => [error.message]

/-- A text that holds no ledger or entry, and its causes. -/
def DecodeError.trail (error : DecodeError) : List String :=
  match error with
  | unreadable _ => [error.message]
  | badEntry _ _ cause => error.message :: cause.trail
  | refused cause => [error.message, cause.message]

/-- An artifact that cannot be read or written, and its causes. Faults of the JSON are named
once only.
-/
def StorageError.trail (error : StorageError) : List String :=
  match error with
  | undecodable _ (.unreadable (.json _)) => [error.message]
  | undecodable _ cause => error.message :: cause.trail
  | io _ fault => error.message :: fault.remark?.toList
  | _ => [error.message]

/-- Why a command fails. -/
inductive CommandError where
  | settings (cause : SettingsError)
  | urlRequired
  | unreadableEntry (path : String) (fault : DiskFault)
  | badEntry (path : String) (cause : DecodeError)
  | badPolicy (cause : PolicyError)
  | noArtifact (path : String)
  | storage (cause : StorageError)
  | notAppended (shortId : String) (cause : AppendError)
  | noValues (benchmark tool : String)
  deriving DecidableEq, Inhabited

namespace CommandError

/-- A failure and its causes. -/
def trail : CommandError → List String
  | settings cause => [cause.message]
  | urlRequired =>
      ["a repository URL is required (--repo-url or repo_url in the configuration)"]
  | unreadableEntry path fault => s!"failed to read entry {path}" :: fault.remark?.toList
  | badEntry path cause => s!"invalid entry {path}" :: cause.trail
  | badPolicy cause => [cause.message]
  | noArtifact path => [s!"{path} does not exist; pass --repo-url to create it"]
  | storage cause => cause.trail
  | notAppended shortId cause => [s!"cannot append commit {shortId}", cause.message]
  | noValues benchmark tool =>
      ["no values recorded for '" ++ benchmark ++ "' under tool '" ++ tool ++ "'"]

/-- The wording of a failure. -/
def message (error : CommandError) : String := ": ".intercalate error.trail

end CommandError

end PerfLedger
