import PerfLedger.Double.Numeral
import Mathlib.Algebra.Order.Ring.Nat
import Mathlib.Tactic.Ring

/-! Reading a decimal is one rounding of its exact value, whatever its exponent.
Texts that write the same value with other digits are therefore read as the same double.
-/

namespace PerfLedger

-----------------------------------------------------------------------------------------
-- Quotients
-----------------------------------------------------------------------------------------

theorem roundHalfEven_scale (num den : Nat) {factor : Nat} (positive : 0 < factor)
    : roundHalfEven (num * factor) (den * factor) = roundHalfEven num den := by
  unfold roundHalfEven
  rw [Nat.mul_div_mul_right _ _ positive, Nat.mul_mod_mul_right]
  have twice : 2 * (num % den * factor) = 2 * (num % den) * factor := by ring
  simp only [twice, Nat.mul_lt_mul_right positive]

theorem nearestUnits_scale (num den : Nat) {factor : Nat} (positive : 0 < factor)
    : nearestUnits (num * factor) (den * factor) = nearestUnits num den := by
  unfold nearestUnits
  rw [Nat.mul_div_mul_right _ _ positive]
  have gap : den * factor * spacing (num / den) = den * spacing (num / den) * factor := by
    ring
  simp only [gap, roundHalfEven_scale _ _ positive]

/-- Rounding does not go below a power of two, since every power of two is on the grid. -/
theorem two_pow_le_nearestUnits {num den exponent : Nat}
    (large : 2 ^ exponent ≤ num / den)
    : 2 ^ exponent ≤ nearestUnits num den := by
  have nonzero : num / den ≠ 0 := by
    have := Nat.two_pow_pos exponent
    omega
  have bits : exponent ≤ (num / den).log2 := (Nat.le_log2 nonzero).mpr large
  unfold nearestUnits
  have gapExact
      : 2 ^ ((num / den).log2 - ((num / den).log2 - 52)) * spacing (num / den)
        = 2 ^ (num / den).log2 := by
    unfold spacing
    rw [← Nat.pow_add]
    congr 1
    omega
  have significand
      : 2 ^ ((num / den).log2 - ((num / den).log2 - 52))
        ≤ roundHalfEven num (den * spacing (num / den)) := by
    refine Nat.le_trans ?_ (roundHalfEven_bounds _ _).1
    have gapPositive : 0 < spacing (num / den) := Nat.two_pow_pos _
    rw [← Nat.div_div_eq_div_mul, Nat.le_div_iff_mul_le gapPositive, gapExact]
    exact Nat.log2_self_le nonzero
  calc 2 ^ exponent
      ≤ 2 ^ (num / den).log2 := Nat.pow_le_pow_right (by decide) bits
    _ = _ := gapExact.symm
    _ ≤ _ := Nat.mul_le_mul_right _ significand

/-- A quotient below one half of a unit is rounded to zero. -/
theorem nearestUnits_eq_zero {num den : Nat} (small : 2 * num < den)
    : nearestUnits num den = 0 := by
  have floor : num / den = 0 := Nat.div_eq_of_lt (by omega)
  have remainder : num % den = num := Nat.mod_eq_of_lt (by omega)
  simp [nearestUnits, spacing, roundHalfEven, floor, remainder, small]

namespace Double

/-- A quotient that rounds to a magnitude is that magnitude. -/
theorem ofQuotient_eq_finite (negative : Bool) {num den : Nat} {size : Magnitude}
    (rounded : nearestUnits num den = size.units)
    : ofQuotient negative num den = .finite negative size := by
  have inRange : nearestUnits num den < unitsLimit := rounded ▸ size.inRange
  unfold ofQuotient
  rw [dif_pos inRange]
  exact congrArg (Double.finite negative) (Magnitude.ext rounded)

theorem ofQuotient_eq_infinite (negative : Bool) {num den : Nat}
    (large : unitsLimit ≤ nearestUnits num den)
    : ofQuotient negative num den = .infinite negative := by
  unfold ofQuotient
  rw [dif_neg (Nat.not_lt.mpr large)]

theorem ofQuotient_congr (negative : Bool) {num den num' den' : Nat}
    (same : nearestUnits num den = nearestUnits num' den')
    : ofQuotient negative num den = ofQuotient negative num' den' := by
  unfold ofQuotient
  simp only [same]

end Double

-----------------------------------------------------------------------------------------
-- Decimals
-----------------------------------------------------------------------------------------

namespace Decimal

/-- Three binary digits hold less than one decimal digit. -/
private theorem two_pow_le_ten_pow {bits places : Nat} (fits : bits ≤ 3 * places)
    : 2 ^ bits ≤ 10 ^ places :=
  calc 2 ^ bits
      ≤ 2 ^ (3 * places) := Nat.pow_le_pow_right (by decide) fits
    _ = (2 ^ 3) ^ places := Nat.pow_mul ..
    _ ≤ 10 ^ places := Nat.pow_le_pow_left (by decide) _

/-- The units as powers of two, with exponents that no step evaluates. -/
theorem units_eq_two_pow
    : ∃ one limit, unitsPerOne = 2 ^ one ∧ unitsLimit = 2 ^ limit ∧ one = 1074 ∧ limit = 2098 :=
  ⟨_, _, rfl, rfl, rfl, rfl⟩

/-- The scale of the decimals reaches below half a unit. -/
private theorem two_units_le : 2 * unitsPerOne ≤ 10 ^ exponentLimit := by
  obtain ⟨one, limit, oneEq, -, size, -⟩ := units_eq_two_pow
  rw [oneEq, ← Nat.pow_succ']
  apply two_pow_le_ten_pow
  simp only [exponentLimit]
  omega

/-- The scale of the decimals reaches past the limit of the doubles. -/
private theorem unitsLimit_le : unitsLimit ≤ 10 ^ exponentLimit * unitsPerOne := by
  obtain ⟨one, limit, oneEq, limitEq, _, _⟩ := units_eq_two_pow
  have split : limit = limit - one + one := by omega
  rw [limitEq, oneEq, split, Nat.pow_add]
  refine Nat.mul_le_mul_right _ (two_pow_le_ten_pow ?_)
  simp only [exponentLimit]
  omega

/-- Beyond `10 ^ 400` the exact quotient is past the limit. -/
private theorem unitsLimit_le_of_large {d : Decimal} (nonzero : d.digits ≠ 0)
    (large : (exponentLimit : Int) < d.exponent)
    : unitsLimit ≤ nearestUnits d.quotient.1 d.quotient.2 := by
  obtain ⟨-, limit, -, limitEq, -, -⟩ := units_eq_two_pow
  have sign : ¬ d.exponent < 0 := by omega
  simp only [quotient, if_neg sign]
  rw [limitEq]
  refine two_pow_le_nearestUnits ?_
  rw [← limitEq, Nat.div_one]
  calc unitsLimit
      ≤ 10 ^ exponentLimit * unitsPerOne := unitsLimit_le
    _ ≤ 10 ^ d.exponent.natAbs * unitsPerOne :=
        Nat.mul_le_mul_right _ (Nat.pow_le_pow_right (by decide) (by omega))
    _ ≤ d.digits * 10 ^ d.exponent.natAbs * unitsPerOne := by
        refine Nat.mul_le_mul_right _ (Nat.le_mul_of_pos_left _ ?_)
        exact Nat.pos_of_ne_zero nonzero

/-- Below `10 ^ -400` the exact quotient is less than half a unit, since the digits are
less than a power of two that the exponent outweighs.
-/
private theorem nearestUnits_eq_zero_of_small {d : Decimal}
    (small : d.exponent + (d.digits.log2 + 1 + exponentLimit : Nat) < 0)
    : nearestUnits d.quotient.1 d.quotient.2 = 0 := by
  have sign : d.exponent < 0 := by omega
  have size : d.digits.log2 + 1 + exponentLimit ≤ d.exponent.natAbs := by omega
  simp only [quotient, if_pos sign]
  refine nearestUnits_eq_zero ?_
  have digits : d.digits < 10 ^ (d.digits.log2 + 1) :=
    Nat.lt_of_lt_of_le Nat.lt_log2_self (Nat.pow_le_pow_left (by decide) _)
  calc 2 * (d.digits * unitsPerOne)
      = d.digits * (2 * unitsPerOne) := by ring
    _ ≤ d.digits * 10 ^ exponentLimit := Nat.mul_le_mul_left _ two_units_le
    _ < 10 ^ (d.digits.log2 + 1) * 10 ^ exponentLimit :=
        Nat.mul_lt_mul_of_pos_right digits (Nat.pow_pos (by decide))
    _ = 10 ^ (d.digits.log2 + 1 + exponentLimit) := (Nat.pow_add ..).symm
    _ ≤ 10 ^ d.exponent.natAbs := Nat.pow_le_pow_right (by decide) size

/-- The double of a decimal is the rounding of its exact quotient. The cases settled by
the exponent alone agree with it.
-/
theorem toDouble_eq_ofQuotient (negative : Bool) (d : Decimal)
    : d.toDouble negative = .ofQuotient negative d.quotient.1 d.quotient.2 := by
  have vanishes (zero : nearestUnits d.quotient.1 d.quotient.2 = 0)
      : Double.zero negative = .ofQuotient negative d.quotient.1 d.quotient.2 := by
    have rounded : nearestUnits d.quotient.1 d.quotient.2 = Magnitude.zero.units := zero
    exact (Double.ofQuotient_eq_finite negative rounded).symm
  unfold toDouble
  split
  next none =>
    refine vanishes (nearestUnits_eq_zero ?_)
    unfold quotient
    split <;> simp [none]
  next nonzero =>
    split
    next large =>
      exact (Double.ofQuotient_eq_infinite negative
        (unitsLimit_le_of_large nonzero large)).symm
    next =>
      split
      next small => exact vanishes (nearestUnits_eq_zero_of_small small)
      next => rfl

/-- A zero digit at the end can be moved into the exponent: the quotients differ by a
common factor.
-/
theorem nearestUnits_quotient_shift (digits : Nat) (exponent : Int)
    : nearestUnits (quotient ⟨digits * 10, exponent⟩).1 (quotient ⟨digits * 10, exponent⟩).2
      = nearestUnits (quotient ⟨digits, exponent + 1⟩).1
          (quotient ⟨digits, exponent + 1⟩).2 := by
  simp only [quotient]
  by_cases sign : exponent + 1 < 0
  · have power : exponent.natAbs = (exponent + 1).natAbs + 1 := by omega
    have units : digits * 10 * unitsPerOne = digits * unitsPerOne * 10 := by ring
    rw [if_pos (show exponent < 0 by omega), if_pos sign]
    simp only [power, Nat.pow_succ, units]
    exact nearestUnits_scale _ _ (by decide)
  by_cases edge : exponent < 0
  · obtain rfl : exponent = -1 := by omega
    have units : digits * 10 * unitsPerOne = digits * 10 ^ 0 * unitsPerOne * 10 := by ring
    rw [if_pos edge, if_neg sign]
    simp only [units]
    exact nearestUnits_scale _ 1 (by decide)
  · have power : (exponent + 1).natAbs = exponent.natAbs + 1 := by omega
    have units
        : digits * 10 ^ (exponent.natAbs + 1) = digits * 10 * 10 ^ exponent.natAbs := by
      ring
    rw [if_neg edge, if_neg sign]
    simp only [power, units]

/-- Zeros behind the digits can be moved into the exponent without changing the double, by
induction on their number.
-/
theorem toDouble_zeros (negative : Bool) (digits zeros : Nat) (exponent : Int)
    : toDouble negative ⟨digits * 10 ^ zeros, exponent⟩
      = toDouble negative ⟨digits, exponent + zeros⟩ := by
  induction zeros generalizing exponent with
  | zero => simp
  | succ zeros ih =>
      have more : digits * 10 ^ (zeros + 1) = digits * 10 ^ zeros * 10 := by ring
      rw [more, toDouble_eq_ofQuotient, Double.ofQuotient_congr _
        (nearestUnits_quotient_shift _ _), ← toDouble_eq_ofQuotient, ih, Nat.cast_succ,
        add_right_comm, ← add_assoc]

end Decimal

end PerfLedger
