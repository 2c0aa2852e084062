import PerfLedger.Double.Numeral

/-!
The shortest decimal of a double: the fewest digits that read back to it and, of those, the
nearest. The search tries the neighbours of the number on ever finer decimal grids and keeps
the first that reads back, so reading back is built in.
-/

namespace PerfLedger

/-- Which neighbour is taken when a number lies halfway between two candidates. -/
inductive TieRule where
  | toEven
  | up
  deriving DecidableEq, Repr

namespace Decimal

/-- The same decimal without trailing zero digits. -/
def withoutTrailingZeros (d : Decimal) : Decimal :=
  if h : 0 < d.digits ∧ d.digits % 10 = 0 then
    withoutTrailingZeros ⟨d.digits / 10, d.exponent + 1⟩
  else
    d
  termination_by d.digits
  decreasing_by exact Nat.div_lt_self h.1 (by decide)

/-- The decimal reads back to a magnitude of this many units. -/
def readsBack (d : Decimal) (units : Nat) : Bool :=
  nearestUnits d.quotient.1 d.quotient.2 == units

/-- The decimal exponent of the first significant digit of a positive number of units.
The scale `10 ^ 400` makes every positive double exceed one.
-/
def leadingExponent (units : Nat) : Int :=
  (Nat.toDigits 10 (units * 10 ^ exponentLimit / unitsPerOne)).length - 1 - exponentLimit

/-- The two neighbours of a number of units among the multiples of `10 ^ exponent`, the
nearer one first.
-/
def neighbours (tie : TieRule) (units : Nat) (exponent : Int) : Decimal × Decimal :=
  let (num, den) :=
    if exponent < 0 then (units * 10 ^ exponent.natAbs, unitsPerOne)
    else (units, unitsPerOne * 10 ^ exponent.natAbs)
  let floor := num / den
  let twice := 2 * (num % den)
  let takeUpper : Bool :=
    if twice = den then
      match tie with
      | .toEven => floor % 2 == 1
      | .up => true
    else den < twice
  if takeUpper then (⟨floor + 1, exponent⟩, ⟨floor, exponent⟩)
  else (⟨floor, exponent⟩, ⟨floor + 1, exponent⟩)

/-- The neighbour that reads back, if one does; of two, the nearer. -/
def candidate? (tie : TieRule) (units : Nat) (exponent : Int) : Option Decimal :=
  let (near, far) := neighbours tie units exponent
  if near.readsBack units then some near
  else if far.readsBack units then some far
  else none

/-- The decimal of all digits of a number of units. -/
def exact (units : Nat) : Decimal := ⟨units * 5 ^ 1074, -1074⟩

/-- Tries grids from `exponent` downwards; after `fuel` of them the exact decimal is left. -/
def searchFrom (tie : TieRule) (units : Nat) (exponent : Int) : Nat → Decimal
  | 0 => exact units
  | fuel + 1 =>
      match candidate? tie units exponent with
      | some d => d
      | none => searchFrom tie units (exponent - 1) fuel

/-- Most significant digits that any double needs. -/
def maxShortestDigits : Nat := 17

/-- The shortest decimal that reads back to a magnitude, nearest first; zero is `0`. -/
def shortest (tie : TieRule) (units : Nat) : Decimal :=
  if units = 0 then ⟨0, 0⟩
  else
    (searchFrom tie units (leadingExponent units) maxShortestDigits).withoutTrailingZeros

end Decimal

end PerfLedger
