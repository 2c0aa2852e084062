import PerfLedger.Ledger.Basic

/-!
Equality of ledgers by value: numbers are compared as numbers, so that the two zeros are
equal, and everything else exactly.
-/

namespace PerfLedger

/-- Records that are equal, their values as numbers. -/
def Record.same (left right : Record) : Bool :=
  left.name == right.name && left.value.equals right.value && left.unit == right.unit
    && left.range == right.range && left.extra == right.extra

/-- Lists whose items agree in pairs. -/
def pairwiseSame {α : Type} (same : α → α → Bool) : List α → List α → Bool
  | [], [] => true
  | x :: xs, y :: ys => same x y && pairwiseSame same xs ys
  | _, _ => false

/-- Entries that are equal, their values as numbers. -/
def Entry.same (left right : Entry) : Bool :=
  left.commit == right.commit && left.date == right.date && left.tool == right.tool
    && pairwiseSame Record.same left.records right.records

/-- Ledgers that are equal, their values as numbers. -/
def Ledger.same (left right : Ledger) : Bool :=
  left.lastUpdate == right.lastUpdate && left.repoUrl == right.repoUrl
    && pairwiseSame
      (fun x y => x.1 == y.1 && pairwiseSame Entry.same x.2 y.2) left.series right.series

end PerfLedger
