import PerfLedger.Detection.Analysis
import PerfLedger.Ledger.Equality

/-! Equality of reports by value: numbers are compared as numbers, everything else exactly. -/

namespace PerfLedger

/-- Alerts that are equal, their numbers as numbers. -/
def Alert.same (left right : Alert) : Bool :=
  left.name == right.name && left.unit == right.unit && left.baseline.equals right.baseline
    && left.newValue.equals right.newValue && left.ratio.equals right.ratio
    && left.direction == right.direction && left.samples == right.samples

/-- Reports that are equal: the same alerts and the same benchmarks left out, in order. -/
def Report.same (left right : Report) : Bool :=
  pairwiseSame Alert.same left.alerts right.alerts && left.skipped == right.skipped

end PerfLedger
