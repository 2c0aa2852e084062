import PerfLedger.Proofs.Double.RepeatedSums

/-! Quotients of numbers that differ. Doubles are apart by more than rounding takes away, so a
rounded quotient stands on the same side of one as the exact quotient, however close the two
numbers are.
-/

namespace PerfLedger

-----------------------------------------------------------------------------------------
-- Distances on the grid
-----------------------------------------------------------------------------------------

/-- A size has fewer than `2 ^ 53` of the steps that lead from it to its neighbour. -/
theorem lt_spacing (units : Nat) : units < 2 ^ 53 * spacing units := by
  calc units
      < 2 ^ (units.log2 + 1) := Nat.lt_log2_self
    _ ≤ 2 ^ (53 + (units.log2 - 52)) := Nat.pow_le_pow_right (by decide) (by omega)
    _ = 2 ^ 53 * spacing units := by rw [Nat.pow_add, spacing]

/-- The steps between sizes get no shorter as the sizes grow, each being a multiple of those
before.
-/
theorem spacing_dvd {less more : Nat} (order : less ≤ more) : spacing less ∣ spacing more := by
  have bits : less.log2 ≤ more.log2 := by
    by_cases zero : less = 0
    · simp [zero]
    · have nonzero : more ≠ 0 := by omega
      exact (Nat.le_log2 nonzero).mpr ((Nat.log2_self_le zero).trans order)
  exact Nat.pow_dvd_pow 2 (Nat.sub_le_sub_right bits 52)

/-- Sizes that differ do so by more than one part in `2 ^ 53` of the lesser. -/
theorem OnGrid.apart {less more : Nat} (grid : OnGrid less) (grid' : OnGrid more)
    (order : less < more)
    : less < 2 ^ 53 * (more - less) := by
  have divides : spacing less ∣ more - less :=
    Nat.dvd_sub ((spacing_dvd order.le).trans (Nat.dvd_of_mod_eq_zero grid'))
      (Nat.dvd_of_mod_eq_zero grid)
  have step : spacing less ≤ more - less := Nat.le_of_dvd (by omega) divides
  exact (lt_spacing less).trans_le (Nat.mul_le_mul_left _ step)

/-- Up to a power of two, steps are at most one part in `2 ^ 53` of it. -/
theorem spacing_le_of_lt {units bits : Nat} (small : units < 2 ^ (53 + bits))
    : spacing units ≤ 2 ^ bits := by
  by_cases zero : units = 0
  · simpa [zero, spacing] using Nat.one_le_two_pow
  · have least : units.log2 < 53 + bits := (Nat.log2_lt zero).mpr small
    exact Nat.pow_le_pow_right (by decide) (by omega)

-----------------------------------------------------------------------------------------
-- Quotients and one
-----------------------------------------------------------------------------------------

section Quotients

variable {num den : Nat}

/-- A size over itself is one. -/
theorem nearestUnits_self_div (positive : 0 < den)
    : nearestUnits (den * unitsPerOne) den = unitsPerOne := by
  have scaled := nearestUnits_scale unitsPerOne 1 positive
  have whole := nearestUnits_whole (n := 1) (by decide)
  rw [Nat.one_mul] at scaled whole
  rw [Nat.mul_comm, scaled, whole]

/-- A size over a lesser one is rounded to more than one. Otherwise rounding would take away more
than half of the step at the quotient, which is one part in `2 ^ 52` if the quotient is below two.
-/
theorem unitsPerOne_lt_nearestUnits (grid : OnGrid num) (grid' : OnGrid den) (positive : 0 < den)
    (order : den < num)
    : unitsPerOne < nearestUnits (num * unitsPerOne) den := by
  obtain ⟨one, -, units, -, size, -⟩ := Decimal.units_eq_two_pow
  obtain ⟨bits, rfl⟩ : ∃ bits, one = 52 + bits := ⟨one - 52, by omega⟩
  rw [units]
  by_cases double : 2 ^ (52 + bits + 1) ≤ num * 2 ^ (52 + bits) / den
  · calc 2 ^ (52 + bits)
        < 2 ^ (52 + bits + 1) := Nat.pow_lt_pow_right (by decide) (Nat.lt_succ_self _)
      _ ≤ nearestUnits (num * 2 ^ (52 + bits)) den := two_pow_le_nearestUnits double
  · have step : spacing (num * 2 ^ (52 + bits) / den) ≤ 2 ^ bits :=
      spacing_le_of_lt (by rw [show 53 + bits = 52 + bits + 1 by omega]; omega)
    have near := (nearestUnits_near (num * 2 ^ (52 + bits)) positive).2
    have apart := grid'.apart grid order
    obtain ⟨more, rfl⟩ := Nat.exists_eq_add_of_lt order
    refine Nat.lt_of_not_le fun low => ?_
    have rounded : nearestUnits ((den + more + 1) * 2 ^ (52 + bits)) den * den
        ≤ 2 ^ (52 + bits) * den := Nat.mul_le_mul_right _ low
    have half : den * spacing ((den + more + 1) * 2 ^ (52 + bits) / den) ≤ den * 2 ^ bits :=
      Nat.mul_le_mul_left _ step
    have size : 2 ^ bits * (2 ^ 53 * (more + 1)) ≤ 2 ^ bits * den := by
      rw [Nat.pow_add] at near rounded half
      linarith
    have few := Nat.le_of_mul_le_mul_left size (Nat.two_pow_pos bits)
    rw [show den + more + 1 - den = more + 1 by omega] at apart
    omega

/-- A size over a greater one is rounded to less than one. Otherwise rounding would add more than
half of the step at the quotient, which is one part in `2 ^ 53` at most.
-/
theorem nearestUnits_lt_unitsPerOne (grid : OnGrid num) (grid' : OnGrid den) (order : num < den)
    : nearestUnits (num * unitsPerOne) den < unitsPerOne := by
  obtain ⟨one, -, units, -, size, -⟩ := Decimal.units_eq_two_pow
  obtain ⟨bits, rfl⟩ : ∃ bits, one = 53 + bits := ⟨one - 53, by omega⟩
  rw [units]
  have positive : 0 < den := by omega
  have below : num * 2 ^ (53 + bits) / den < 2 ^ (53 + bits) := by
    rw [Nat.div_lt_iff_lt_mul positive, Nat.mul_comm]
    exact Nat.mul_lt_mul_of_pos_left order (Nat.two_pow_pos _)
  have step : spacing (num * 2 ^ (53 + bits) / den) ≤ 2 ^ bits := spacing_le_of_lt below
  have near := (nearestUnits_near (num * 2 ^ (53 + bits)) positive).1
  have apart := grid.apart grid' order
  obtain ⟨more, rfl⟩ := Nat.exists_eq_add_of_lt order
  refine Nat.lt_of_not_le fun high => ?_
  have rounded : 2 ^ (53 + bits) * (num + more + 1)
      ≤ nearestUnits (num * 2 ^ (53 + bits)) (num + more + 1) * (num + more + 1) :=
    Nat.mul_le_mul_right _ high
  have half
      : (num + more + 1) * spacing (num * 2 ^ (53 + bits) / (num + more + 1))
        ≤ (num + more + 1) * 2 ^ bits :=
    Nat.mul_le_mul_left _ step
  have size : 2 ^ bits * (2 ^ 54 * (more + 1)) ≤ 2 ^ bits * (num + more + 1) := by
    rw [Nat.pow_add] at near rounded half
    linarith
  have few := Nat.le_of_mul_le_mul_left size (Nat.two_pow_pos bits)
  rw [show num + more + 1 - num = more + 1 by omega] at apart
  omega

theorem unitsPerOne_lt_nearestUnits_iff (grid : OnGrid num) (grid' : OnGrid den)
    (positive : 0 < den)
    : unitsPerOne < nearestUnits (num * unitsPerOne) den ↔ den < num := by
  refine ⟨fun above => ?_, unitsPerOne_lt_nearestUnits grid grid' positive⟩
  refine Nat.lt_of_not_le fun low => Nat.not_lt.mpr ?_ above
  conv_rhs => rw [← nearestUnits_self_div positive]
  exact nearestUnits_mono_num den (Nat.mul_le_mul_right _ low)

theorem nearestUnits_lt_unitsPerOne_iff (grid : OnGrid num) (grid' : OnGrid den)
    (positive : 0 < den)
    : nearestUnits (num * unitsPerOne) den < unitsPerOne ↔ num < den := by
  refine ⟨fun below => ?_, nearestUnits_lt_unitsPerOne grid grid'⟩
  refine Nat.lt_of_not_le fun high => Nat.not_lt.mpr ?_ below
  conv_lhs => rw [← nearestUnits_self_div positive]
  exact nearestUnits_mono_num den (Nat.mul_le_mul_right _ high)

end Quotients

-----------------------------------------------------------------------------------------
-- Doubles
-----------------------------------------------------------------------------------------

namespace Double

variable {size worse better : Magnitude} {num den : Nat}

theorem lt_ofQuotient_iff
    : (finite false size).lt (ofQuotient false num den) = true
      ↔ size.units < nearestUnits num den := by
  by_cases inRange : nearestUnits num den < unitsLimit
  · simp [ofQuotient, inRange, lt, signedUnits]
  · have large := Nat.not_lt.mp inRange
    rw [ofQuotient_eq_infinite false large]
    exact iff_of_true rfl (size.inRange.trans_le large)

theorem ofQuotient_lt_iff
    : (ofQuotient false num den).lt (finite false size) = true
      ↔ nearestUnits num den < size.units := by
  by_cases inRange : nearestUnits num den < unitsLimit
  · simp [ofQuotient, inRange, lt, signedUnits]
  · have large := Nat.not_lt.mp inRange
    rw [ofQuotient_eq_infinite false large]
    exact iff_of_false Bool.false_ne_true (Nat.not_lt.mpr (size.inRange.le.trans large))

/-- A quotient is above one exactly if its numerator is the greater number. -/
theorem one_lt_div_iff (nonzero : better.units ≠ 0)
    : (ofNat 1).lt ((finite false worse).div (finite false better)) = true
      ↔ better.units < worse.units := by
  obtain ⟨one, units, exact⟩ := ofNat_eq_finite (n := 1) (by decide)
  rw [Nat.one_mul] at units
  simp only [exact, div, if_neg nonzero, bne_self_eq_false, lt_ofQuotient_iff, units]
  exact unitsPerOne_lt_nearestUnits_iff worse.onGrid better.onGrid (Nat.pos_of_ne_zero nonzero)

/-- A quotient is below one exactly if its numerator is the lesser number. -/
theorem div_lt_one_iff (nonzero : better.units ≠ 0)
    : ((finite false worse).div (finite false better)).lt (ofNat 1) = true
      ↔ worse.units < better.units := by
  obtain ⟨one, units, exact⟩ := ofNat_eq_finite (n := 1) (by decide)
  rw [Nat.one_mul] at units
  simp only [exact, div, if_neg nonzero, bne_self_eq_false, ofQuotient_lt_iff, units]
  exact nearestUnits_lt_unitsPerOne_iff worse.onGrid better.onGrid (Nat.pos_of_ne_zero nonzero)

end Double

end PerfLedger
