import PerfLedger.Double.Layout

/-! JSON values: what a document holds once it has been read, or before it is printed. -/

namespace PerfLedger

/-- A number as documents tell them apart: integers of 64 bits, signed or unsigned, and
doubles. A double prints with a point or an exponent, so the two do not mix.
-/
inductive JsonNumber where
  | int (value : Int)
  | real (value : Double)
  deriving DecidableEq, Inhabited

/-- Least integer that is kept as an integer. -/
def JsonNumber.leastInt : Int := -(2 ^ 63)

/-- Greatest integer that is kept as an integer. -/
def JsonNumber.greatestInt : Int := 2 ^ 64 - 1

/-- The double nearest to a number. -/
def JsonNumber.toDouble : JsonNumber → Double
  | int value => .ofInt value
  | real value => value

/-- A JSON value. Members of an object keep the order in which they are written. -/
inductive Json where
  | null
  | bool (value : Bool)
  | number (value : JsonNumber)
  | text (value : String)
  | array (items : List Json)
  | object (members : List (String × Json))
  deriving Inhabited

namespace Json

/-- A whole number. -/
def int (value : Int) : Json := .number (.int value)

/-- A number that is always written as a double. -/
def real (value : Double) : Json := .number (.real value)

/-- The member of an optional field: nothing when the field is absent. -/
def optional (name : String) (value : Option Json) : List (String × Json) :=
  match value with
  | some value => [(name, value)]
  | none => []

end Json

end PerfLedger
