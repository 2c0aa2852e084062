import PerfLedger.Detection.Policy
import PerfLedger.Ledger.Basic

/-!
Detection of regressions: every record of an entry is compared with the mean of the last
values that were recorded for its benchmark before the entry's commit.
-/

namespace PerfLedger

-----------------------------------------------------------------------------------------
-- Reports
-----------------------------------------------------------------------------------------

/-- A benchmark that got worse than its baseline by more than the threshold. -/
structure Alert where
  name : String
  unit : String
  baseline : Double
  newValue : Double
  ratio : Double
  direction : Polarity
  samples : Nat
  deriving DecidableEq, Inhabited

/-- Why a benchmark was not judged. -/
inductive SkipReason where
  | noHistory
  | insufficientSamples (present need : Nat)
  | unknownPolarity (unit : String)
  deriving DecidableEq, Inhabited

/-- A benchmark that was not judged. -/
structure Skipped where
  name : String
  reason : SkipReason
  deriving DecidableEq, Inhabited

/-- The outcome of a detection pass, in the order of the records. -/
structure Report where
  alerts : List Alert
  skipped : List Skipped
  deriving DecidableEq, Inhabited

namespace Alert

/-- The alert fails the run. -/
def isFailure (a : Alert) (p : Policy) : Bool :=
  match p.failRatio with
  | some limit => limit.lt a.ratio
  | none => true

/-- Signed change of the value in percent of the baseline; none over a zero baseline. -/
def changePercent (a : Alert) : Double :=
  if a.baseline.isZero then .zero false
  else ((a.newValue.sub a.baseline).div a.baseline).mul (.ofNat 100)

/-- An alert in words. -/
def describe (a : Alert) : String :=
  a.name ++ ": " ++ a.newValue.plain ++ " " ++ a.unit ++ " vs baseline "
    ++ a.baseline.fixed 4 false ++ " " ++ a.unit ++ " (" ++ a.ratio.fixed 2 false
    ++ "x worse, " ++ a.direction.describe ++ ", n=" ++ toString a.samples ++ ")"

/-- The object written for an alert. -/
def toJson (a : Alert) : Json :=
  .object
    [("benchmark_name", .text a.name), ("unit", .text a.unit), ("baseline", .real a.baseline),
      ("new_value", .real a.newValue), ("ratio", .real a.ratio),
      ("direction", .text a.direction.name), ("samples", .int a.samples)]

end Alert

namespace SkipReason

/-- A reason in words. -/
def describe : SkipReason → String
  | noHistory => "no history"
  | insufficientSamples present need => s!"{present} of {need} required samples"
  | unknownPolarity unit => "unknown polarity for unit '" ++ unit ++ "'"

/-- The members written for a reason. -/
def members : SkipReason → List (String × Json)
  | noHistory => [("reason", .text "no_history")]
  | insufficientSamples present need =>
      [("reason", .text "insufficient_samples"), ("have", .int present), ("need", .int need)]
  | unknownPolarity unit => [("reason", .text "unknown_polarity"), ("unit", .text unit)]

end SkipReason

namespace Report

/-- A report that says nothing. -/
def empty : Report := ⟨[], []⟩

/-- Some regression was found. -/
def hasRegressions (r : Report) : Bool := !r.alerts.isEmpty

/-- The alerts that fail the run. -/
def failures (r : Report) (p : Policy) : List Alert := r.alerts.filter fun a => a.isFailure p

/-- The object written for a report. -/
def toJson (r : Report) : Json :=
  .object
    [("alerts", .array (r.alerts.map Alert.toJson)),
      ("skipped", .array (r.skipped.map fun s =>
        .object (("name", .text s.name) :: s.reason.members)))]

end Report

-----------------------------------------------------------------------------------------
-- Analysis
-----------------------------------------------------------------------------------------

/-- What the comparison of one record comes to. -/
inductive Verdict where
  | fine
  | alert (a : Alert)
  | skip (reason : SkipReason)
  deriving DecidableEq, Inhabited

namespace Policy

/-- The last `windowSize` of some values. -/
def window (p : Policy) (prior : List Double) : List Double :=
  prior.drop (prior.length - p.windowSize)

/-- Values that are needed before a benchmark is judged. -/
def needed (p : Policy) : Nat := max 1 p.minSamples

/-- Compares a record with the values before it. A missing history comes before a short one,
and that before an unknown polarity.
-/
def judge (p : Policy) (tool : String) (r : Record) (prior : List Double) : Verdict :=
  if prior.isEmpty then .skip .noHistory
  else
    let window := p.window prior
    if window.length < p.needed then
      .skip (.insufficientSamples window.length p.needed)
    else
      match p.polarityOf? tool r.name r.unit with
      | none => .skip (.unknownPolarity r.unit)
      | some direction =>
          let baseline := Double.mean window
          let ratio := direction.ratio baseline r.value
          if p.thresholdRatio.lt ratio then
            .alert {
              name := r.name, unit := r.unit, baseline, newValue := r.value, ratio,
              direction, samples := window.length
            }
          else
            .fine

end Policy

namespace Report

/-- A report with one more verdict in front. -/
def addVerdict (name : String) (verdict : Verdict) (r : Report) : Report :=
  match verdict with
  | .fine => r
  | .alert a => { r with alerts := a :: r.alerts }
  | .skip reason => { r with skipped := ⟨name, reason⟩ :: r.skipped }

end Report

/-- Compares the records of an entry with the history of a tool. Only entries recorded before
the entry's commit count, so it makes no difference whether it was recorded already.
-/
def Ledger.analyze (l : Ledger) (tool : String) (entry : Entry) (p : Policy) : Report :=
  entry.records.foldr
    (fun r report =>
      let prior := (l.pointsBefore tool r.name entry.commit.id).map Prod.snd
      report.addVerdict r.name (p.judge tool r prior))
    Report.empty

end PerfLedger
