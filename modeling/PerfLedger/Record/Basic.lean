import PerfLedger.Json.Printer
import PerfLedger.Text.Blank

/-!
Benchmark records: one measured scenario of one run. A record that is made here has a name
that is not blank and a finite value that is not below zero.
-/

namespace PerfLedger

/-- A measurement. `range` is a free-text note on its uncertainty. -/
structure Record where
  name : String
  value : Double
  unit : String
  range : Option String
  extra : Option String
  deriving DecidableEq, Inhabited

/-- Why a record is refused. The rejected value is kept as it was shown. -/
inductive RecordError where
  | missingField (field : String)
  | invalidValue (name shown : String)
  deriving DecidableEq, Inhabited

namespace RecordError

/-- The wording of a refused record. -/
def message : RecordError → String
  | missingField field => s!"benchmark record is missing required field `{field}`"
  | invalidValue name shown =>
      s!"benchmark `{name}` has invalid value {shown}: expected a finite non-negative number"

end RecordError

namespace Record

/-- A value is admitted when it is finite and not below zero. -/
def checkValue (name : String) (value : Double) : Except RecordError Double :=
  if value.isFiniteNonnegative then .ok value
  else .error (.invalidValue name value.plain)

/-- A record without annotations. A blank name counts as missing. -/
def make (name : String) (value : Double) (unit : String) : Except RecordError Record := do
  if isBlankText name then .error (.missingField "name")
  let value ← checkValue name value
  return { name, value, unit, range := none, extra := none }

/-- Greatest magnitude below which every integer is a double of its own. -/
def greatestSafeInt : Nat := 2 ^ 53 - 1

/-- The number written for a value: whole values have no point while they are safe. -/
def valueNumber (value : Double) : JsonNumber :=
  match value.toInt? with
  | some whole => if whole.natAbs ≤ greatestSafeInt then .int whole else .real value
  | none => .real value

/-- The object written for a record; absent annotations are left out. -/
def toJson (r : Record) : Json :=
  .object
    ([("name", .text r.name), ("value", .number (valueNumber r.value)), ("unit", .text r.unit)]
      ++ Json.optional "range" (r.range.map .text)
      ++ Json.optional "extra" (r.extra.map .text))

end Record

end PerfLedger
