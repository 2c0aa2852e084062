import PerfLedger.Record.Basic
import PerfLedger.Text.Pattern

/-! The numeric spread in a record's free-text range annotation. -/

namespace PerfLedger

namespace Pattern

/-- A given character. -/
def letter (c : Char) : Pattern := char (· == c)

/-- One decimal digit or more. -/
def digits : Pattern := chain (char isDecimalDigit) (run isDecimalDigit)

/-- The exponent of a numeral. -/
def exponent : Pattern :=
  chain (either (letter 'e') (letter 'E'))
    (chain (optional (either (letter '-') (letter '+'))) digits)

/-- A numeral without a sign: digits, which may go on with a point and further digits, or a point
with digits behind it, and either with an optional exponent.
-/
def numeral : Pattern :=
  either
    (chain digits
      (chain (optional (chain (letter '.') (run isDecimalDigit))) (optional exponent)))
    (chain (letter '.') (chain digits (optional exponent)))

end Pattern

/-- A range annotation without the separators of its thousands. -/
def plainRange (range : String) : List Char := range.toList.filter (· != ',')

/-- The spread of a range annotation: its first numeral, thousands separators aside, unless
it is beyond the doubles.
-/
def rangeSpread? (range : String) : Option Double :=
  ((Pattern.numeral.find? (plainRange range)).bind Double.ofText?).filter Double.isFinite

/-- The spread of a record, if its range has one. -/
def Record.spread? (r : Record) : Option Double := r.range.bind rangeSpread?

end PerfLedger
