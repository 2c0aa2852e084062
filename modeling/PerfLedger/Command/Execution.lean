import PerfLedger.Command.Failure
import PerfLedger.Command.Invocation
import PerfLedger.Display.Listing

/-!
Running commands. A command that fails shows nothing; one that succeeds shows its output and
may still end the run with a status of its own, when it found a regression that counts.
-/

namespace PerfLedger

/-- The end of a command that did not fail. -/
structure Outcome where
  output : String
  hasFailure : Bool
  deriving DecidableEq, Repr, Inhabited

namespace Outcome

/-- The end of a command with nothing to warn of. -/
def quiet (output : String) : Outcome := ⟨output, false⟩

/-- Exit status of a command that did not fail. -/
def exitCode (outcome : Outcome) : Nat := if outcome.hasFailure then 2 else 0

end Outcome

namespace Command

variable {m : Type → Type} [Monad m] [Disk m]

-----------------------------------------------------------------------------------------
-- Parts of commands
-----------------------------------------------------------------------------------------

/-- Where an artifact is when nothing else is said. -/
def defaultData : String := "dev/bench/data.js"

/-- Where the artifact of a command is. -/
def dataPath (s : Settings) (data : Option String) : String :=
  (data.or s.dataFile).getD defaultData

/-- The entry in a file. -/
def readEntry (path : String) : ExceptT CommandError m Entry := do
  match ← (readText path : m _) with
  | .error fault => throw (.unreadableEntry path fault)
  | .ok text =>
      match Entry.decode text with
      | .ok entry => return entry
      | .error cause => throw (.badEntry path cause)

/-- Refuses a policy that is out of range. -/
def checkPolicy (p : Policy) : ExceptT CommandError m Unit :=
  match p.validate with
  | .ok _ => return
  | .error cause => throw (.badPolicy cause)

/-- The text shown for a report. -/
def showReport (colors json : Bool) (p : Policy) (r : Report) : String :=
  if json then r.toJson.pretty ++ "\n" else r.render colors p

-----------------------------------------------------------------------------------------
-- Commands
-----------------------------------------------------------------------------------------

/-- Creates an artifact without entries. -/
def runInit (s : Settings) (o : InitOptions) : ExceptT CommandError m Outcome := do
  let path := dataPath s o.data
  match o.repoUrl.or s.repoUrl with
  | none => throw .urlRequired
  | some repoUrl => do
      let _ ← (Artifact.init path repoUrl o.force).adapt .storage
      return .quiet ("Initialized " ++ path ++ " for " ++ repoUrl ++ "\n")

/-- Judges an entry and records it, whatever the judgement is. The entry is compared with what
was recorded before it.
-/
def judgeAndAppend (s : Settings) (o : AppendOptions) (tool : String) (entry : Entry)
    (l : Ledger) : Except AppendError (Report × Ledger) := do
  let report := if o.skipDetect then Report.empty else l.analyze tool entry s.policy
  return (report, ← l.append tool entry)

/-- Records an entry in the artifact. -/
def runAppend (colors : Bool) (s : Settings) (o : AppendOptions)
    : ExceptT CommandError m Outcome := do
  let path := dataPath s o.data
  let entry ← readEntry o.entry
  let tool := o.tool.getD entry.tool
  checkPolicy s.policy
  let repoUrl := o.repoUrl.or s.repoUrl
  if repoUrl.isNone && !(← (Disk.isPresent path : m _)) then throw (.noArtifact path)
  let update := Artifact.update path (repoUrl.getD "") (judgeAndAppend s o tool entry)
  let report ← update.adapt fun
    | .storage cause => .storage cause
    | .rejected cause => .notAppended entry.commit.shortId cause
  return {
    output := if o.skipDetect then "" else showReport colors o.json s.policy report
    hasFailure := o.failOnAlert && !(report.failures s.policy).isEmpty
  }

/-- Judges an entry without recording it. -/
def runDetect (colors : Bool) (s : Settings) (o : DetectOptions)
    : ExceptT CommandError m Outcome := do
  let path := dataPath s o.data
  let entry ← readEntry o.entry
  checkPolicy s.policy
  let l ← (Artifact.load path).adapt .storage
  return .quiet (showReport colors o.json s.policy (l.analyze entry.tool entry s.policy))

/-- The unit of a benchmark in the newest entry that has it. -/
def newestUnit (l : Ledger) (tool benchmark : String) : String :=
  match (l.entriesOf tool).reverse.findSome? fun e => e.record? benchmark with
  | some record => record.unit
  | none => ""

/-- Shows the values of a benchmark. -/
def runSeries (s : Settings) (o : SeriesOptions) : ExceptT CommandError m Outcome := do
  let l ← (Artifact.load (dataPath s o.data)).adapt .storage
  let points := l.points o.tool o.benchmark
  if points.isEmpty then throw (.noValues o.benchmark o.tool)
  if o.json then return .quiet ((pointsJson points).pretty ++ "\n")
  else return .quiet (renderPoints (newestUnit l o.tool o.benchmark) points)

/-- Shows what the artifact holds. -/
def runStatus (colors : Bool) (s : Settings) (o : StatusOptions)
    : ExceptT CommandError m Outcome := do
  let l ← (Artifact.load (dataPath s o.data)).adapt .storage
  let policy :=
    if o.detailed then "\nDetector configuration:\n" ++ s.policy.toJson.pretty ++ "\n" else ""
  return .quiet (l.renderStatus colors o.detailed ++ policy)

/-- Runs a command. -/
def execute (colors : Bool) (s : Settings) : Command → ExceptT CommandError m Outcome
  | init o => runInit s o
  | append o => runAppend colors s o
  | detect o => runDetect colors s o
  | series o => runSeries s o
  | status o => runStatus colors s o

end Command

-----------------------------------------------------------------------------------------
-- Whole runs
-----------------------------------------------------------------------------------------

/-- How a run of the program ends. -/
inductive Ending where
  | notUnderstood (cause : UsageError)
  | failed (cause : CommandError)
  | finished (outcome : Outcome)
  deriving DecidableEq, Inhabited

/-- Exit status of a run. -/
def Ending.exitCode : Ending → Nat
  | notUnderstood cause => cause.exitCode
  | failed _ => 1
  | finished outcome => outcome.exitCode

/-- Runs the program: its arguments are read first, then its settings, and then its command is
run.
-/
def run {m : Type → Type} [Monad m] [Disk m] (colors : Bool) (environment : Environment)
    (arguments : List String) : m Ending := do
  match Invocation.ofArguments arguments with
  | .error cause => return .notUnderstood cause
  | .ok invocation =>
      let command : ExceptT CommandError m Outcome := do
        let s ← (Settings.load invocation.config environment).adapt .settings
        invocation.command.execute colors s
      match ← command.run with
      | .ok outcome => return .finished outcome
      | .error cause => return .failed cause

end PerfLedger
