import Mathlib.Algebra.Order.Field.Power
import Mathlib.Data.Rat.Cast.Order
import Mathlib.Tactic.FieldSimp
import Mathlib.Tactic.NormNum
import PerfLedger.Proofs.Double.Digits
import PerfLedger.Proofs.Double.ReadingBack

/-! Rounding keeps the order of numbers, so the exponent of a shortest decimal says on which
side of a power of ten its double is.
-/

namespace PerfLedger

-----------------------------------------------------------------------------------------
-- Rounding
-----------------------------------------------------------------------------------------

theorem roundHalfEven_mono {num num' : Nat} (den : Nat) (h : num ≤ num')
    : roundHalfEven num den ≤ roundHalfEven num' den := by
  rcases (Nat.div_le_div_right h : num / den ≤ num' / den).lt_or_eq with below | same
  · calc roundHalfEven num den
        ≤ num / den + 1 := (roundHalfEven_bounds num den).2
      _ ≤ num' / den := below
      _ ≤ roundHalfEven num' den := (roundHalfEven_bounds num' den).1
  · have rest : num % den ≤ num' % den := by
      have left := Nat.div_add_mod num den
      have right := Nat.div_add_mod num' den
      rw [same] at left
      omega
    unfold roundHalfEven
    rw [same]
    dsimp only
    repeat' split
    all_goals omega

/-- Rounding does not go past the next power of two, since every power of two is on the grid. -/
theorem nearestUnits_le_two_pow (num den : Nat)
    : nearestUnits num den ≤ 2 ^ ((num / den).log2 + 1) := by
  have exact
      : 2 ^ ((num / den).log2 + 1 - ((num / den).log2 - 52)) * spacing (num / den)
        = 2 ^ ((num / den).log2 + 1) := by
    unfold spacing
    rw [← Nat.pow_add]
    congr 1
    omega
  have floor
      : num / den / spacing (num / den)
        < 2 ^ ((num / den).log2 + 1 - ((num / den).log2 - 52)) := by
    refine (Nat.div_lt_iff_lt_mul (Nat.two_pow_pos _)).mpr ?_
    exact exact.symm ▸ Nat.lt_log2_self
  have rounded := (roundHalfEven_bounds num (den * spacing (num / den))).2
  rw [← Nat.div_div_eq_div_mul] at rounded
  calc nearestUnits num den
      ≤ 2 ^ ((num / den).log2 + 1 - ((num / den).log2 - 52)) * spacing (num / den) :=
        Nat.mul_le_mul_right _ (rounded.trans floor)
    _ = 2 ^ ((num / den).log2 + 1) := exact

/-- Of two quotients with the same denominator the greater is not rounded to less. Either both
are on the same grid, or a power of two stands between them.
-/
theorem nearestUnits_mono_num {num num' : Nat} (den : Nat) (h : num ≤ num')
    : nearestUnits num den ≤ nearestUnits num' den := by
  have floors : num / den ≤ num' / den := Nat.div_le_div_right h
  by_cases same : spacing (num / den) = spacing (num' / den)
  · unfold nearestUnits
    rw [same]
    exact Nat.mul_le_mul_right _ (roundHalfEven_mono _ h)
  · have bits : (num / den).log2 ≠ (num' / den).log2 := fun equal =>
      same (by rw [spacing, spacing, equal])
    have nonzero : num' / den ≠ 0 := by
      intro zero
      rw [zero] at floors
      exact bits (by rw [Nat.le_zero.mp floors, zero])
    have fewer : (num / den).log2 + 1 ≤ (num' / den).log2 := by
      refine lt_of_le_of_ne ?_ bits
      by_cases zero : num / den = 0
      · rw [zero]
        exact Nat.zero_le _
      · exact (Nat.le_log2 nonzero).mpr ((Nat.log2_self_le zero).trans floors)
    calc nearestUnits num den
        ≤ 2 ^ ((num / den).log2 + 1) := nearestUnits_le_two_pow num den
      _ ≤ 2 ^ (num' / den).log2 := Nat.pow_le_pow_right (by decide) fewer
      _ ≤ nearestUnits num' den := two_pow_le_nearestUnits (Nat.log2_self_le nonzero)

/-- The greater of two quotients is not rounded to less. -/
theorem nearestUnits_mono {num den num' den' : Nat} (positive : 0 < den)
    (positive' : 0 < den') (h : num * den' ≤ num' * den)
    : nearestUnits num den ≤ nearestUnits num' den' := by
  have scaled := nearestUnits_mono_num (den * den') h
  rwa [nearestUnits_scale _ _ positive', Nat.mul_comm den, nearestUnits_scale _ _ positive]
    at scaled

-----------------------------------------------------------------------------------------
-- Decimals
-----------------------------------------------------------------------------------------

namespace Decimal

/-- The number that a decimal denotes. -/
def value (d : Decimal) : ℚ := d.digits * 10 ^ d.exponent

/-- The units that a decimal is rounded to. -/
def nearest (d : Decimal) : Nat := nearestUnits d.quotient.1 d.quotient.2

theorem quotient_pos (d : Decimal) : 0 < d.quotient.2 := by
  unfold quotient
  split
  · exact Nat.pow_pos (by decide)
  · exact Nat.one_pos

/-- The quotient of a decimal is its number, counted in units. -/
theorem quotient_eq (d : Decimal)
    : (d.quotient.1 : ℚ) = d.value * unitsPerOne * d.quotient.2 := by
  obtain ⟨digits, exponent⟩ := d
  unfold quotient value
  generalize unitsPerOne = one
  dsimp only
  split
  next sign =>
    obtain ⟨places, rfl⟩ : ∃ places : Nat, exponent = -(places : Int) :=
      ⟨exponent.natAbs, by omega⟩
    have nonzero : (10 : ℚ) ^ places ≠ 0 := pow_ne_zero _ (by norm_num)
    rw [Int.natAbs_neg, Int.natAbs_natCast, zpow_neg, zpow_natCast]
    push_cast
    field_simp
  next sign =>
    obtain ⟨places, rfl⟩ : ∃ places : Nat, exponent = (places : Int) :=
      ⟨exponent.natAbs, by omega⟩
    rw [Int.natAbs_natCast, zpow_natCast]
    push_cast
    rw [mul_one]

theorem nearest_mono {c d : Decimal} (h : c.value ≤ d.value) : c.nearest ≤ d.nearest := by
  refine nearestUnits_mono c.quotient_pos d.quotient_pos ?_
  have order : (c.quotient.1 * d.quotient.2 : ℚ) ≤ d.quotient.1 * c.quotient.2 := by
    rw [quotient_eq c, quotient_eq d]
    calc c.value * unitsPerOne * c.quotient.2 * d.quotient.2
        = c.value * (unitsPerOne * c.quotient.2 * d.quotient.2) := by ring
      _ ≤ d.value * (unitsPerOne * c.quotient.2 * d.quotient.2) :=
          mul_le_mul_of_nonneg_right h
            (mul_nonneg (mul_nonneg (Nat.cast_nonneg _) (Nat.cast_nonneg _)) (Nat.cast_nonneg _))
      _ = d.value * unitsPerOne * d.quotient.2 * c.quotient.2 := by ring
  exact_mod_cast order

/-- The first digit of a decimal stands at its scientific exponent. -/
theorem value_bounds {d : Decimal} (positive : 0 < d.digits)
    : (10 : ℚ) ^ d.scientificExponent ≤ d.value
      ∧ d.value < 10 ^ (d.scientificExponent + 1) := by
  have long := natDigits_length_pos d.digits
  have least : ((10 : ℚ) ^ ((natDigits d.digits).length - 1)) ≤ d.digits := by
    exact_mod_cast ten_pow_length_le positive
  have most : (d.digits : ℚ) < (10 : ℚ) ^ (natDigits d.digits).length := by
    exact_mod_cast lt_ten_pow_length d.digits
  have power : (0 : ℚ) < 10 ^ d.exponent := zpow_pos (by norm_num) _
  have first
      : d.scientificExponent = ((natDigits d.digits).length - 1 : Nat) + d.exponent := by
    unfold scientificExponent
    omega
  have next
      : d.scientificExponent + 1 = ((natDigits d.digits).length : Nat) + d.exponent := by
    unfold scientificExponent
    omega
  rw [next, first, zpow_add₀ (by norm_num), zpow_add₀ (by norm_num), zpow_natCast,
    zpow_natCast]
  exact ⟨mul_le_mul_of_nonneg_right least power.le, mul_lt_mul_of_pos_right most power⟩

-----------------------------------------------------------------------------------------
-- Powers of ten
-----------------------------------------------------------------------------------------

/-- A power of ten. -/
def tenTo (exponent : Int) : Decimal := ⟨1, exponent⟩

theorem value_tenTo (exponent : Int) : (tenTo exponent).value = 10 ^ exponent := by
  simp [tenTo, value]

theorem nearest_tenTo_mono {low high : Int} (h : low ≤ high)
    : (tenTo low).nearest ≤ (tenTo high).nearest := by
  refine nearest_mono ?_
  rw [value_tenTo, value_tenTo]
  exact zpow_le_zpow_right₀ (by norm_num) h

theorem nearest_shortest (tie : TieRule) {units : Nat} (grid : OnGrid units)
    : (shortest tie units).nearest = units :=
  nearestUnits_shortest tie grid

/-- A double is below a power of ten exactly when the exponent of its shortest decimal is, as
long as the power is a shortest decimal itself.
-/
theorem scientificExponent_lt_iff {tie : TieRule} {units : Nat} {exponent : Int}
    (grid : OnGrid units) (nonzero : units ≠ 0)
    (power : shortest tie (tenTo exponent).nearest = tenTo exponent)
    : (shortest tie units).scientificExponent < exponent
      ↔ units < (tenTo exponent).nearest := by
  obtain ⟨least, most⟩ := value_bounds (shortest_digits_pos tie grid nonzero)
  constructor
  · intro below
    refine lt_of_le_of_ne ?_ fun same => ?_
    · rw [← nearest_shortest tie grid]
      refine nearest_mono (most.le.trans ?_)
      rw [value_tenTo]
      exact zpow_le_zpow_right₀ (by norm_num) below
    · have first : (tenTo exponent).scientificExponent = exponent := by
        have one : (natDigits 1).length = 1 := rfl
        simp [scientificExponent, tenTo, one]
      rw [same, power, first] at below
      exact lt_irrefl _ below
  · intro less
    refine not_le.mp fun above => Nat.not_le.mpr less ?_
    conv_rhs => rw [← nearest_shortest tie grid]
    refine nearest_mono (le_trans ?_ least)
    rw [value_tenTo]
    exact zpow_le_zpow_right₀ (by norm_num) above

end Decimal

end PerfLedger
