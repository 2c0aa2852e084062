import PerfLedger.Detection.Analysis
import PerfLedger.Display.Date
import PerfLedger.Display.Style

/-! What the commands show: reports, series and the overview of a ledger. -/

namespace PerfLedger

/-- One line for an alert. -/
def alertLine (colors : Bool) (p : Policy) (a : Alert) : String :=
  let label :=
    if a.isFailure p then Style.failure.paint colors "REGRESSION"
    else Style.warning.paint colors "REGRESSION (below fail ratio)"
  label ++ " " ++ a.describe ++ " [" ++ a.changePercent.fixed 1 true ++ "%]\n"

/-- One line for a benchmark that was not judged. -/
def skippedLine (colors : Bool) (s : Skipped) : String :=
  Style.faint.paint colors "skipped" ++ " " ++ s.name ++ ": " ++ s.reason.describe ++ "\n"

/-- A report for people. -/
def Report.render (colors : Bool) (p : Policy) (r : Report) : String :=
  let summary :=
    if r.hasRegressions then
      toString r.alerts.length ++ " regression(s) above "
        ++ p.thresholdRatio.fixed 2 false ++ "x threshold\n"
    else
      Style.good.paint colors "No regressions detected" ++ "\n"
  String.join (r.alerts.map (alertLine colors p) ++ r.skipped.map (skippedLine colors))
    ++ summary

/-- A series for people: a line for each point. -/
def renderPoints (unit : String) (points : List (Int × Double)) : String :=
  String.join <| points.map fun (date, value) =>
    formatDate date ++ "\t" ++ value.plain ++ " " ++ unit ++ "\n"

/-- The array written for a series. -/
def pointsJson (points : List (Int × Double)) : Json :=
  .array (points.map fun (date, value) =>
    .object [("date", .int date), ("value", .real value)])

/-- What a ledger holds of one tool. -/
def renderTool (colors detailed : Bool) (l : Ledger) (tool : String) : String :=
  let latest :=
    match l.latest? tool with
    | some e => ", latest " ++ e.commit.shortId ++ " at " ++ formatDate e.date ++ ")\n"
    | none => ")\n"
  let benchmarks :=
    if detailed then
      (l.names tool).map fun name =>
        "  " ++ name ++ " (" ++ toString (l.points tool name).length ++ " points)\n"
    else
      []
  "\n" ++ Style.title.paint colors tool ++ " (" ++ toString (l.entriesOf tool).length
    ++ " entries" ++ latest ++ String.join benchmarks

/-- The overview of a ledger. -/
def Ledger.renderStatus (colors detailed : Bool) (l : Ledger) : String :=
  Style.caption.paint colors "Repository:" ++ " " ++ l.repoUrl ++ "\n"
    ++ Style.caption.paint colors "Last update:" ++ " " ++ formatDate l.lastUpdate ++ "\n"
    ++ Style.caption.paint colors "Entries:" ++ " " ++ toString l.size ++ "\n"
    ++ String.join (l.tools.map (renderTool colors detailed l))

end PerfLedger
