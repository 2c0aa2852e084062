import PerfLedger.Json.Printer
import PerfLedger.Json.Reading
import PerfLedger.Text.Printable

/-! The wording of documents that have the wrong shape. -/

namespace PerfLedger

/-- A value in words. -/
def Found.describe : Found → String
  | null => "null"
  | bool value => if value then "boolean `true`" else "boolean `false`"
  | integer value => s!"integer `{value}`"
  | real value =>
      let shown := String.ofList (JsonNumber.real value).print
      s!"floating point `{shown}`"
  | text value =>
      let shown := displayText value
      s!"string {shown}"
  | sequence => "sequence"
  | map => "map"

/-- The name after which the script of an artifact assigns its data. -/
def scriptGlobal : String := "window.BENCHMARK_DATA"

/-- The wording of a wrong shape. -/
def ShapeError.message : ShapeError → String
  | wrongType found expected =>
      let shown := found.describe
      s!"invalid type: {shown}, expected {expected}"
  | integerOutOfRange value expected =>
      s!"invalid value: integer `{value}`, expected {expected}"
  | missingField name => s!"missing field `{name}`"
  | duplicateField name => s!"duplicate field `{name}`"
  | wrongLength length expected count =>
      s!"invalid length {length}, expected {expected} with {count} elements"
  | unknownVariant name known =>
      let shown := ", ".intercalate (known.map fun variant => s!"`{variant}`")
      s!"unknown variant `{name}`, expected one of {shown}"
  | duplicateSeries tool => s!"duplicate series `{tool}`"
  | missingAssignment => s!"expected `=` after `{scriptGlobal}`"
  | foreignTool index series tool =>
      s!"entry #{index} of series `{series}` names tool `{tool}`"

end PerfLedger
