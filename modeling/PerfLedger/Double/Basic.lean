import PerfLedger.Double.Rounding

/-!
Doubles as exact numbers. A finite double is a sign and a whole number of units of
`2 ^ -1074`, so order, equality and arithmetic are those of the integers, with one rounding
at the end of each operation.
-/

namespace PerfLedger

/-- Units in the number one. -/
def unitsPerOne : Nat := 2 ^ 1074

/-- Least number of units that is beyond the finite doubles. -/
def unitsLimit : Nat := 2 ^ 2098

/-- Size of a finite double, in units of `2 ^ -1074`. -/
structure Magnitude where
  units : Nat
  onGrid : OnGrid units
  inRange : units < unitsLimit
  deriving DecidableEq

/-- The magnitude zero. -/
def Magnitude.zero : Magnitude :=
  ⟨0, by decide, by rw [unitsLimit]; apply Nat.pow_pos; decide⟩

instance : Inhabited Magnitude := ⟨Magnitude.zero⟩

/-- Magnitudes are equal when they have the same number of units. -/
theorem Magnitude.ext {left right : Magnitude} (same : left.units = right.units)
    : left = right := by
  cases left; cases right; cases same; rfl

/-- A double-precision number. Zero keeps its sign; there is one not-a-number. -/
inductive Double where
  | nan
  | infinite (negative : Bool)
  | finite (negative : Bool) (size : Magnitude)
  deriving DecidableEq, Inhabited

namespace Double

/-- Zero of the given sign. -/
def zero (negative : Bool) : Double := .finite negative Magnitude.zero

/-- The double nearest to `num / den` units; sizes that round past the range are infinite. -/
def ofQuotient (negative : Bool) (num den : Nat) : Double :=
  if inRange : nearestUnits num den < unitsLimit then
    .finite negative ⟨nearestUnits num den, nearestUnits_onGrid num den, inRange⟩
  else
    .infinite negative

/-- The double nearest to a whole number. -/
def ofNat (n : Nat) : Double := ofQuotient false (n * unitsPerOne) 1

/-- The double nearest to an integer. -/
def ofInt (n : Int) : Double := ofQuotient (n < 0) (n.natAbs * unitsPerOne) 1

/-- Neither infinite nor not-a-number. -/
def isFinite : Double → Bool
  | finite .. => true
  | _ => false

/-- A finite double counted in signed units. -/
def signedUnits (negative : Bool) (size : Magnitude) : Int :=
  if negative then -(size.units : Int) else size.units

/-- Strictly less. Not-a-number compares with nothing, and the zeros are equal. -/
def lt : Double → Double → Bool
  | nan, _ => false
  | _, nan => false
  | infinite left, infinite right => left && !right
  | infinite left, finite .. => left
  | finite .., infinite right => !right
  | finite s m, finite t n => signedUnits s m < signedUnits t n

/-- Numeric equality: the zeros are equal, not-a-number differs from itself. -/
def equals : Double → Double → Bool
  | infinite left, infinite right => left == right
  | finite s m, finite t n => signedUnits s m == signedUnits t n
  | _, _ => false

/-- Finite and not below zero; the negative zero counts as zero. -/
def isFiniteNonnegative : Double → Bool
  | finite negative size => !negative || size.units == 0
  | _ => false

/-- Equal to zero, of either sign. -/
def isZero : Double → Bool
  | finite _ size => size.units == 0
  | _ => false

/-- The opposite number. -/
def neg : Double → Double
  | nan => nan
  | infinite negative => infinite (!negative)
  | finite negative size => finite (!negative) size

/-- Rounded sum. An exact zero sum is positive unless both terms are negative zeros. -/
def add : Double → Double → Double
  | nan, _ => nan
  | _, nan => nan
  | infinite left, infinite right => if left = right then infinite left else nan
  | infinite left, finite .. => infinite left
  | finite .., infinite right => infinite right
  | finite s m, finite t n =>
      let sum := signedUnits s m + signedUnits t n
      if sum = 0 then zero (s && t) else ofQuotient (sum < 0) sum.natAbs 1

/-- Rounded difference. -/
def sub (left right : Double) : Double := left.add right.neg

/-- Rounded product. -/
def mul : Double → Double → Double
  | nan, _ => nan
  | _, nan => nan
  | infinite left, infinite right => infinite (left != right)
  | infinite left, finite t n => if n.units = 0 then nan else infinite (left != t)
  | finite s m, infinite right => if m.units = 0 then nan else infinite (s != right)
  | finite s m, finite t n => ofQuotient (s != t) (m.units * n.units) unitsPerOne

/-- Rounded quotient. A nonzero number over zero is infinite. -/
def div : Double → Double → Double
  | nan, _ => nan
  | _, nan => nan
  | infinite _, infinite _ => nan
  | infinite left, finite t _ => infinite (left != t)
  | finite s _, infinite right => zero (s != right)
  | finite s m, finite t n =>
      if n.units = 0 then
        if m.units = 0 then nan else infinite (s != t)
      else
        ofQuotient (s != t) (m.units * unitsPerOne) n.units

/-- Sum from left to right. The empty sum is the negative zero, which adds nothing to any
number, not even to another negative zero.
-/
def sum (terms : List Double) : Double := terms.foldl add (zero true)

/-- Arithmetic mean as computed by one rounded sum and one rounded division. -/
def mean (terms : List Double) : Double := (sum terms).div (ofNat terms.length)

/-- The integer equal to a finite double, when there is one. -/
def toInt? : Double → Option Int
  | finite negative size =>
      if size.units % unitsPerOne = 0 then
        let whole : Int := (size.units / unitsPerOne : Nat)
        some (if negative then -whole else whole)
      else
        none
  | _ => none

end Double

end PerfLedger
