/-! Sets of characters, given as ranges of their codes. -/

namespace PerfLedger

/-- Ranges of codes, both ends included. -/
abbrev CodeRanges := Array (Nat × Nat)

/-- A character has its code in one of some ranges. -/
def CodeRanges.hold (ranges : CodeRanges) (c : Char) : Bool :=
  ranges.any fun (first, last) => first ≤ c.toNat && c.toNat ≤ last

end PerfLedger
