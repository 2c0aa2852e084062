import PerfLedger.Detection.Polarity
import PerfLedger.Record.Basic

/-! The policy of regression detection, its presets, and how it resolves polarities. -/

namespace PerfLedger

/-- Polarities by name, sorted by name. -/
abbrev PolarityTable := List (String × Polarity)

-----------------------------------------------------------------------------------------
-- Policies
-----------------------------------------------------------------------------------------

/-- How regressions are detected. An alert is raised above `thresholdRatio`; it is a failure
above `failRatio`, or always when that is not set.
-/
structure Policy where
  windowSize : Nat
  thresholdRatio : Double
  minSamples : Nat
  failRatio : Option Double
  overrides : PolarityTable
  unitPolarity : PolarityTable
  toolPolarity : PolarityTable
  deriving DecidableEq, Inhabited

/-- Why a policy is refused. -/
inductive PolicyError where
  | emptyWindow
  | noSamples
  | tooManySamples (minSamples windowSize : Nat)
  | badThreshold (threshold : Double)
  | badFailRatio (failRatio : Double)
  deriving DecidableEq, Inhabited

/-- The wording of a refused policy. -/
def PolicyError.message : PolicyError → String
  | emptyWindow => "invalid detector configuration: window_size must be at least 1"
  | noSamples => "invalid detector configuration: min_samples must be at least 1"
  | tooManySamples minSamples windowSize =>
      "invalid detector configuration: "
        ++ s!"min_samples ({minSamples}) cannot exceed window_size ({windowSize})"
  | badThreshold threshold =>
      "invalid detector configuration: threshold_ratio must be a finite number >= 1.0, got "
        ++ threshold.plain
  | badFailRatio failRatio =>
      "invalid detector configuration: fail_ratio must be finite, got " ++ failRatio.plain

namespace Policy

/-- The decimal `tenths / 10` as a double. -/
def tenths (n : Nat) : Double := (⟨n, -1⟩ : Decimal).toDouble false

/-- The standard policy. -/
def standard : Policy where
  windowSize := 5
  thresholdRatio := tenths 15
  minSamples := 2
  failRatio := none
  overrides := []
  unitPolarity := []
  toolPolarity :=
    [("customBiggerIsBetter", .higherIsBetter), ("customSmallerIsBetter", .lowerIsBetter)]

/-- A tighter threshold over a longer window. -/
def strict : Policy :=
  { standard with windowSize := 10, thresholdRatio := tenths 12, minSamples := 3 }

/-- Only large changes are flagged, from the first prior value on. -/
def permissive : Policy :=
  { standard with windowSize := 3, thresholdRatio := tenths 20, minSamples := 1 }

/-- Refuses settings that are out of range. -/
def validate (p : Policy) : Except PolicyError Unit := do
  if p.windowSize = 0 then .error .emptyWindow
  if p.minSamples = 0 then .error .noSamples
  if p.windowSize < p.minSamples then .error (.tooManySamples p.minSamples p.windowSize)
  if !p.thresholdRatio.isFinite || p.thresholdRatio.lt (.ofNat 1) then
    .error (.badThreshold p.thresholdRatio)
  match p.failRatio with
  | some failRatio => if !failRatio.isFinite then .error (.badFailRatio failRatio)
  | none => .ok ()

-----------------------------------------------------------------------------------------
-- Polarities
-----------------------------------------------------------------------------------------

/-- The polarity of a key: that of the key itself, or else of the first one that differs
from it only in the case of ASCII letters.
-/
def lookup (table : PolarityTable) (key : String) : Option Polarity :=
  match table.lookup key with
  | some polarity => some polarity
  | none => (table.find? fun entry => entry.1.toLower == key.toLower).map Prod.snd

/-- The polarity of a benchmark: as overridden for its name, then for its unit, then as told
by the unit, and last as agreed for the tool.
-/
def polarityOf? (p : Policy) (tool name unit : String) : Option Polarity :=
  (lookup p.overrides name)
  <|> (lookup p.unitPolarity unit)
  <|> (Polarity.infer? unit)
  <|> (lookup p.toolPolarity tool)

-----------------------------------------------------------------------------------------
-- Documents
-----------------------------------------------------------------------------------------

/-- The object written for a table of polarities. -/
def tableJson (table : PolarityTable) : Json :=
  .object (table.map fun (name, polarity) => (name, .text polarity.name))

/-- The object written for a policy. -/
def toJson (p : Policy) : Json :=
  .object
    [("window_size", .int p.windowSize), ("threshold_ratio", .real p.thresholdRatio),
      ("min_samples", .int p.minSamples),
      ("fail_ratio", (p.failRatio.map Json.real).getD .null),
      ("polarity_overrides", tableJson p.overrides),
      ("unit_polarity", tableJson p.unitPolarity),
      ("tool_polarity", tableJson p.toolPolarity)]

/-- Reads one field of a policy. -/
def set (p : Policy) (field : String) (tree : Tree) : Except ReadError Policy :=
  match field with
  | "window_size" => return { p with windowSize := ← tree.readCount }
  | "threshold_ratio" => return { p with thresholdRatio := ← tree.readDouble }
  | "min_samples" => return { p with minSamples := ← tree.readCount }
  | "fail_ratio" => return { p with failRatio := ← tree.readOptional Tree.readDouble }
  | "polarity_overrides" => return { p with overrides := ← tree.readMap Polarity.read }
  | "unit_polarity" => return { p with unitPolarity := ← tree.readMap Polarity.read }
  | "tool_polarity" => return { p with toolPolarity := ← tree.readMap Polarity.read }
  | _ => return p

/-- How a policy is read; what is not given stays as in the standard policy. -/
def shape : RecordShape Policy Policy where
  title := "struct DetectorConfig"
  fields :=
    ["window_size", "threshold_ratio", "min_samples", "fail_ratio", "polarity_overrides",
      "unit_polarity", "tool_polarity"]
  empty := standard
  set := set
  finish := .ok

/-- The policy in the text of a document. -/
def ofText (text : String) : Except ReadError Policy := readDocument shape.read text.toList

end Policy

end PerfLedger
