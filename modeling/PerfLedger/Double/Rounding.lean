/-! Rounding of exact quotients: to the nearest integer, and to the grid of the doubles. -/

namespace PerfLedger

-- Powers are those of the core library, also where another definition of them is in scope.
attribute [instance(2000), default_instance 20000] instPowNat

/-- The integer nearest to `num / den`; an exact half goes to the even neighbour. -/
def roundHalfEven (num den : Nat) : Nat :=
  let floor := num / den
  let twice := 2 * (num % den)
  if twice < den then floor
  else if den < twice then floor + 1
  else if floor % 2 = 0 then floor
  else floor + 1

/-- Rounding never goes below the floor nor past its successor, by the three cases. -/
theorem roundHalfEven_bounds (num den : Nat)
    : num / den ≤ roundHalfEven num den ∧ roundHalfEven num den ≤ num / den + 1 := by
  unfold roundHalfEven
  simp only
  split
  · omega
  · split
    · omega
    · split <;> omega

/-- An exact multiple is its own nearest integer. -/
theorem roundHalfEven_mul (quotient : Nat) {den : Nat} (positive : 0 < den)
    : roundHalfEven (quotient * den) den = quotient := by
  unfold roundHalfEven
  simp [Nat.mul_div_cancel _ positive, positive]

/-- Distance between neighbouring doubles near `units`, both counted in units of
`2 ^ -1074`, the least positive double. A double keeps 53 significant bits.
-/
def spacing (units : Nat) : Nat := 2 ^ (units.log2 - 52)

/-- A count of units is on the grid when a double of that size exists, range aside. -/
def OnGrid (units : Nat) : Prop := units % spacing units = 0

instance (units : Nat) : Decidable (OnGrid units) :=
  inferInstanceAs (Decidable (units % spacing units = 0))

/-- The grid point nearest to `num / den` units; an exact half goes to the even
neighbour. The spacing is that of the binade holding the quotient.
-/
def nearestUnits (num den : Nat) : Nat :=
  let gap := spacing (num / den)
  roundHalfEven num (den * gap) * gap

/-- At most 53 significant bits, scaled by a power of two, lie on the grid. -/
theorem onGrid_of_significand {significand : Nat} (fits : significand ≤ 2 ^ 53)
    (exponent : Nat)
    : OnGrid (significand * 2 ^ exponent) := by
  unfold OnGrid spacing
  apply Nat.mod_eq_zero_of_dvd
  by_cases zero : significand = 0
  · simp [zero]
  have nonzero : significand * 2 ^ exponent ≠ 0 :=
    Nat.mul_ne_zero zero (Nat.ne_of_gt (Nat.two_pow_pos exponent))
  by_cases full : significand = 2 ^ 53
  · subst full
    rw [← Nat.pow_add, Nat.log2_two_pow]
    exact Nat.pow_dvd_pow 2 (by omega)
  · have small : significand < 2 ^ 53 := by omega
    have below : significand * 2 ^ exponent < 2 ^ (53 + exponent) := by
      rw [Nat.pow_add]
      exact Nat.mul_lt_mul_of_pos_right small (Nat.two_pow_pos exponent)
    have bits := (Nat.log2_lt nonzero).mpr below
    exact Nat.dvd_trans (Nat.pow_dvd_pow 2 (by omega)) (Nat.dvd_mul_left _ _)

/-- Rounding lands on the grid: the rounded significand has at most 53 bits. -/
theorem nearestUnits_onGrid (num den : Nat) : OnGrid (nearestUnits num den) := by
  unfold nearestUnits
  apply onGrid_of_significand
  have upper := (roundHalfEven_bounds num (den * spacing (num / den))).2
  have shrink : num / (den * spacing (num / den)) < 2 ^ 53 := by
    rw [← Nat.div_div_eq_div_mul]
    apply (Nat.div_lt_iff_lt_mul (Nat.two_pow_pos _)).mpr
    rw [← Nat.pow_add]
    have size : num / den < 2 ^ ((num / den).log2 + 1) := Nat.lt_log2_self
    exact Nat.lt_of_lt_of_le size (Nat.pow_le_pow_right (by omega) (by omega))
  unfold spacing at *
  omega

/-- A grid point is its own nearest grid point. -/
theorem nearestUnits_self {units : Nat} (grid : OnGrid units)
    : nearestUnits units 1 = units := by
  unfold nearestUnits
  have positive : 0 < spacing units := Nat.two_pow_pos _
  simp only [Nat.div_one, Nat.one_mul]
  have exact := Nat.div_mul_cancel (Nat.dvd_of_mod_eq_zero grid)
  have rounded := roundHalfEven_mul (units / spacing units) positive
  rw [exact] at rounded
  rw [rounded, exact]

end PerfLedger
