import PerfLedger.Double.Layout
import PerfLedger.Proofs.Double.Nearest

/-! The shortest decimal of a double reads back to it. Every candidate of the search is
tested for that, so what remains is the decimal of all digits and the dropped zeros.
-/

namespace PerfLedger

namespace Decimal

/-- A candidate is only returned after it was read back. -/
theorem readsBack_of_candidate {tie : TieRule} {units : Nat} {exponent : Int} {d : Decimal}
    (found : candidate? tie units exponent = some d)
    : d.readsBack units = true := by
  unfold candidate? at found
  split at found
  split at found
  next near => exact Option.some.inj found ▸ near
  next =>
    split at found
    next far => exact Option.some.inj found ▸ far
    next => contradiction

/-- The decimal of all digits reads back: `10 ^ 1074` cancels against the units. -/
theorem exact_readsBack {units : Nat} (grid : OnGrid units)
    : (exact units).readsBack units = true := by
  have value : nearestUnits (exact units).quotient.1 (exact units).quotient.2 = units := by
    have ten (places : Nat) : 10 ^ places = 1 * (5 ^ places * 2 ^ places) := by
      rw [Nat.one_mul, ← Nat.mul_pow]
    have scaled (places : Nat)
        : nearestUnits (units * 5 ^ places * 2 ^ places) (10 ^ places) = units := by
      have positive : 0 < 5 ^ places * 2 ^ places :=
        Nat.mul_pos (Nat.pow_pos (by decide)) (Nat.two_pow_pos _)
      rw [ten, Nat.mul_assoc, nearestUnits_scale _ _ positive, nearestUnits_self grid]
    have sign : (-1074 : Int) < 0 := by decide
    have places : (-1074 : Int).natAbs = 1074 := rfl
    simpa only [exact, quotient, unitsPerOne, if_pos sign, places] using scaled 1074
  simp [readsBack, value]

theorem searchFrom_zero (tie : TieRule) (units : Nat) (exponent : Int)
    : searchFrom tie units exponent 0 = exact units :=
  rfl

/-- A decimal that was found, or else another one. -/
abbrev foundOr (found? : Option Decimal) (other : Decimal) : Decimal :=
  match found? with
  | some d => d
  | none => other

/-- A search tries one grid and goes on with the next finer one. -/
theorem searchFrom_succ (tie : TieRule) (units : Nat) (exponent : Int) (fuel : Nat)
    : searchFrom tie units exponent (fuel + 1)
      = (candidate? tie units exponent).getD (searchFrom tie units (exponent - 1) fuel) := by
  change foundOr (candidate? tie units exponent) (searchFrom tie units (exponent - 1) fuel) = _
  cases candidate? tie units exponent <;> rfl

/-- Whatever grid the search ends on, its decimal reads back, by induction on the fuel. -/
theorem searchFrom_readsBack (tie : TieRule) {units : Nat} (grid : OnGrid units)
    (exponent : Int) (fuel : Nat)
    : (searchFrom tie units exponent fuel).readsBack units = true := by
  induction fuel generalizing exponent with
  | zero =>
      rw [searchFrom_zero]
      exact exact_readsBack grid
  | succ fuel ih =>
      rw [searchFrom_succ]
      cases found : candidate? tie units exponent with
      | some d => exact readsBack_of_candidate found
      | none => exact ih _

/-- Dropping the zeros at the end does not change what is read, by induction on their
number.
-/
theorem nearestUnits_withoutTrailingZeros (d : Decimal)
    : nearestUnits d.withoutTrailingZeros.quotient.1 d.withoutTrailingZeros.quotient.2
      = nearestUnits d.quotient.1 d.quotient.2 := by
  induction d using withoutTrailingZeros.induct with
  | case1 d zero ih =>
      rw [withoutTrailingZeros, dif_pos zero, ih, ← nearestUnits_quotient_shift,
        Nat.div_mul_cancel (Nat.dvd_of_mod_eq_zero zero.2)]
  | case2 d zero => rw [withoutTrailingZeros, dif_neg zero]

/-- The shortest decimal of a number of units is read as that number of units. -/
theorem nearestUnits_shortest (tie : TieRule) {units : Nat} (grid : OnGrid units)
    : nearestUnits (shortest tie units).quotient.1 (shortest tie units).quotient.2
      = units := by
  unfold shortest
  split
  next zero =>
    subst zero
    exact nearestUnits_eq_zero (by simp [quotient])
  next =>
    rw [nearestUnits_withoutTrailingZeros]
    simpa only [readsBack, beq_iff_eq] using searchFrom_readsBack tie grid _ _

/-- Only zero is written with the digit zero alone. -/
theorem shortest_digits_pos (tie : TieRule) {units : Nat} (grid : OnGrid units)
    (nonzero : units ≠ 0)
    : 0 < (shortest tie units).digits := by
  refine Nat.pos_of_ne_zero fun none => nonzero ?_
  rw [← nearestUnits_shortest tie grid]
  refine nearestUnits_eq_zero ?_
  unfold quotient
  split <;> simp [none]

/-- A decimal that reads back to a magnitude is read as the double of that size. -/
theorem toDouble_of_nearestUnits (negative : Bool) {d : Decimal} {size : Magnitude}
    (same : nearestUnits d.quotient.1 d.quotient.2 = size.units)
    : d.toDouble negative = .finite negative size := by
  rw [toDouble_eq_ofQuotient]
  exact Double.ofQuotient_eq_finite negative same

/-- The shortest decimal of a magnitude is read as the double of that size. -/
theorem toDouble_shortest (negative : Bool) (size : Magnitude)
    : (shortest .toEven size.units).toDouble negative = .finite negative size :=
  toDouble_of_nearestUnits negative (nearestUnits_shortest _ size.onGrid)

/-- Zero is written with no exponent. -/
theorem shortest_normal (size : Magnitude)
    : (shortest .toEven size.units).digits = 0 → (shortest .toEven size.units).exponent = 0 := by
  intro empty
  by_cases zero : size.units = 0
  · rw [zero]
    rfl
  · exact absurd empty (shortest_digits_pos _ size.onGrid zero).ne'

end Decimal

/-- Integers of at most 53 bits are doubles, so reading them does not round. -/
theorem Double.ofInt_of_units {whole : Int} {size : Magnitude}
    (units : whole.natAbs * unitsPerOne = size.units)
    : Double.ofInt whole = .finite (whole < 0) size := by
  unfold Double.ofInt
  refine ofQuotient_eq_finite _ ?_
  rw [units]
  exact nearestUnits_self size.onGrid

end PerfLedger
