import PerfLedger.Double.Basic
import PerfLedger.Json.Reading
import PerfLedger.Text.Blank

/-!
Polarity: whether larger or smaller values of a benchmark are better, as far as its unit
tells, and how many times worse one value is than another.
-/

namespace PerfLedger

/-- The direction of change that is an improvement. -/
inductive Polarity where
  | higherIsBetter
  | lowerIsBetter
  deriving DecidableEq, Repr, Inhabited

namespace Polarity

-----------------------------------------------------------------------------------------
-- Names
-----------------------------------------------------------------------------------------

/-- The name of a polarity in documents. -/
def name : Polarity → String
  | higherIsBetter => "higher_is_better"
  | lowerIsBetter => "lower_is_better"

/-- A polarity in words. -/
def describe : Polarity → String
  | higherIsBetter => "higher is better"
  | lowerIsBetter => "lower is better"

/-- The names by which a polarity may be given, sorted. -/
def knownNames : List String :=
  ["bigger", "higher", "higher_is_better", "lower", "lower_is_better", "smaller"]

/-- The polarity of a name. -/
def ofName? : String → Option Polarity
  | "higher_is_better" => some higherIsBetter
  | "higher" => some higherIsBetter
  | "bigger" => some higherIsBetter
  | "lower_is_better" => some lowerIsBetter
  | "lower" => some lowerIsBetter
  | "smaller" => some lowerIsBetter
  | _ => none

/-- The polarity of a name in a document. -/
def ofName (given : String) : Except ReadError Polarity :=
  match ofName? given with
  | some polarity => .ok polarity
  | none => ShapeError.fail (.unknownVariant given knownNames)

/-- Reads a polarity: its name, or an object with the name as the only member, null. -/
def read : Tree → Except ReadError Polarity
  | .text given => ofName given
  | .object [] (.unnamed found) => (missingNameFault found).fail
  | .object ((given, value) :: more) closing => do
      let polarity ← ofName (← readName given)
      match value with
      | .null => pure ()
      | other => other.mismatch "unit"
      match more, closing with
      | [], .closed => return polarity
      | [], .cut fault => fault.fail
      | _, _ => Fault.malformed.fail
  | .broken place => place.whenNamed.fail
  | _ => Fault.malformed.fail

-----------------------------------------------------------------------------------------
-- Units
-----------------------------------------------------------------------------------------

/-- Units of time. -/
def timeUnits : List String :=
  ["ps", "ns", "nsec", "nanosecond", "nanoseconds", "us", "usec", "microsecond",
    "microseconds", "ms", "msec", "millisecond", "milliseconds", "s", "sec", "secs",
    "second", "seconds", "min", "mins", "minute", "minutes"]

/-- Units of size, allocations included. -/
def sizeUnits : List String :=
  ["b", "byte", "bytes", "kb", "kib", "mb", "mib", "gb", "gib", "alloc", "allocs",
    "allocation", "allocations"]

/-- Units that are rates on their own. -/
def rateUnits : List String :=
  ["hz", "khz", "mhz", "ghz", "ops", "ips", "rps", "qps", "tps", "fps", "throughput"]

/-- A letter of a unit in lower case, micro signs as `u`. Known units have ASCII letters
only, so besides ASCII capitals just the kelvin sign and the Greek letter matter.
-/
def foldUnitChar (c : Char) : Char :=
  if c = '\u212A' then 'k'
  else if c = '\u039C' || c = '\u03BC' || c = '\u00B5' then 'u'
  else c.toLower

/-- Writes every ` per ` as a slash. -/
def slashPer : List Char → List Char
  | ' ' :: 'p' :: 'e' :: 'r' :: ' ' :: rest => '/' :: slashPer rest
  | c :: rest => c :: slashPer rest
  | [] => []

/-- A unit in the form in which it is compared. -/
def normalizeUnit (unit : String) : List Char :=
  (slashPer ((trim unit.toList).map foldUnitChar)).filter fun c => !isBlank c

/-- A normalized text is one of the given units. -/
def isOneOf (units : List String) (text : List Char) : Bool :=
  units.any fun unit => unit.toList == text

/-- The polarity of a normalized unit. A quotient is a rate if it is taken by time, and else
a duration or size if that is what it is taken of.
-/
def ofNormalized? (text : List Char) : Option Polarity :=
  let what := text.takeWhile (· != '/')
  match text.dropWhile (· != '/') with
  | _ :: per =>
      if isOneOf timeUnits per then some higherIsBetter
      else if isOneOf timeUnits what || isOneOf sizeUnits what then some lowerIsBetter
      else none
  | [] =>
      if isOneOf timeUnits what || isOneOf sizeUnits what then some lowerIsBetter
      else if isOneOf rateUnits what then some higherIsBetter
      else none

/-- The polarity that a unit tells, if it tells one. -/
def infer? (unit : String) : Option Polarity := ofNormalized? (normalizeUnit unit)

-----------------------------------------------------------------------------------------
-- Ratios
-----------------------------------------------------------------------------------------

/-- How many times worse a value is than a baseline: above one is unfavourable. A positive
number over zero is infinite, and zero over zero is one.
-/
def ratio (polarity : Polarity) (baseline value : Double) : Double :=
  let (worse, better) :=
    match polarity with
    | higherIsBetter => (baseline, value)
    | lowerIsBetter => (value, baseline)
  if better.isZero then
    if (Double.zero false).lt worse then .infinite false else .ofNat 1
  else
    worse.div better

end Polarity

/-- The wording of a unit that tells no polarity. -/
def unknownPolarityMessage (unit : String) : String :=
  s!"cannot determine polarity for unit `{unit}`"

end PerfLedger
