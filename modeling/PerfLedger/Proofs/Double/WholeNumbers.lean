import PerfLedger.Proofs.Double.Monotone

/-! The shortest decimals of whole numbers. Their digits end at the point or before it, and
below `2 ^ 53` they write the very number, since no two whole numbers there share a double.
-/

namespace PerfLedger

-----------------------------------------------------------------------------------------
-- Rounding
-----------------------------------------------------------------------------------------

theorem unitsPerOne_pos : 0 < unitsPerOne := by
  obtain ⟨one, -, oneEq, -⟩ := Decimal.units_eq_two_pow
  rw [oneEq]
  exact Nat.two_pow_pos one

theorem onGrid_whole {n : Nat} (small : n ≤ 2 ^ 53) : OnGrid (n * unitsPerOne) := by
  obtain ⟨one, -, oneEq, -⟩ := Decimal.units_eq_two_pow
  rw [oneEq]
  exact onGrid_of_significand small one

/-- Whole numbers of at most 53 bits are doubles. -/
theorem nearestUnits_whole {n : Nat} (small : n ≤ 2 ^ 53)
    : nearestUnits (n * unitsPerOne) 1 = n * unitsPerOne :=
  nearestUnits_self (onGrid_whole small)

/-- Whole numbers from `2 ^ 53` on are rounded to numbers from there on. -/
theorem le_nearestUnits_whole {n : Nat} (large : 2 ^ 53 ≤ n)
    : 2 ^ 53 * unitsPerOne ≤ nearestUnits (n * unitsPerOne) 1 := by
  rw [← nearestUnits_whole le_rfl]
  exact nearestUnits_mono_num 1 (Nat.mul_le_mul_right _ large)

/-- Doubles from `2 ^ 53` on are whole. -/
theorem unitsPerOne_dvd_of_large {units : Nat} (grid : OnGrid units)
    (large : 2 ^ 53 * unitsPerOne ≤ units)
    : unitsPerOne ∣ units := by
  obtain ⟨one, -, oneEq, -⟩ := Decimal.units_eq_two_pow
  rw [oneEq] at large ⊢
  have nonzero : units ≠ 0 := by
    have positive : 0 < 2 ^ 53 * 2 ^ one := Nat.mul_pos (by decide) (Nat.two_pow_pos one)
    omega
  have bits : 53 + one ≤ units.log2 := by
    refine (Nat.le_log2 nonzero).mpr ?_
    rwa [Nat.pow_add]
  have gap : 2 ^ one ∣ spacing units := Nat.pow_dvd_pow 2 (by omega)
  exact gap.trans (Nat.dvd_of_mod_eq_zero grid)

/-- Whole numbers are rounded to whole numbers. -/
theorem unitsPerOne_dvd_nearestUnits (n : Nat)
    : unitsPerOne ∣ nearestUnits (n * unitsPerOne) 1 := by
  rcases Nat.le_total n (2 ^ 53) with small | large
  · rw [nearestUnits_whole small]
    exact Nat.dvd_mul_left _ _
  · exact unitsPerOne_dvd_of_large (nearestUnits_onGrid _ _) (le_nearestUnits_whole large)

/-- Below `2 ^ 53` no other whole number is rounded to the same. -/
theorem eq_of_nearestUnits_whole {m n : Nat} (small : n < 2 ^ 53)
    (same : nearestUnits (m * unitsPerOne) 1 = n * unitsPerOne)
    : m = n := by
  rcases Nat.le_total m (2 ^ 53) with fits | large
  · rw [nearestUnits_whole fits] at same
    exact Nat.eq_of_mul_eq_mul_right unitsPerOne_pos same
  · have above := le_nearestUnits_whole large
    rw [same] at above
    exact absurd (Nat.le_of_mul_le_mul_right above unitsPerOne_pos) (Nat.not_le.mpr small)

namespace Decimal

-----------------------------------------------------------------------------------------
-- The search
-----------------------------------------------------------------------------------------

theorem exponent_of_neighbours (tie : TieRule) (units : Nat) (exponent : Int)
    : (neighbours tie units exponent).1.exponent = exponent
      ∧ (neighbours tie units exponent).2.exponent = exponent := by
  unfold neighbours
  dsimp only
  generalize (if exponent < 0 then (_, _) else (_, _) : Nat × Nat) = quotient
  repeat' split
  all_goals exact ⟨rfl, rfl⟩

/-- A candidate stands on the grid it was looked for on. -/
theorem exponent_of_candidate {tie : TieRule} {units : Nat} {exponent : Int} {d : Decimal}
    (found : candidate? tie units exponent = some d)
    : d.exponent = exponent := by
  obtain ⟨near, far⟩ := exponent_of_neighbours tie units exponent
  unfold candidate? at found
  dsimp only at found
  split at found
  · exact Option.some.inj found ▸ near
  · split at found
    · exact Option.some.inj found ▸ far
    · contradiction

/-- A whole number is its own first neighbour among the whole numbers. -/
theorem neighbours_whole (tie : TieRule) (n : Nat)
    : neighbours tie (n * unitsPerOne) 0 = (⟨n, 0⟩, ⟨n + 1, 0⟩) := by
  have positive := unitsPerOne_pos
  unfold neighbours
  generalize unitsPerOne = one at *
  have apart : ¬ 0 = one := positive.ne
  simp [Nat.mul_div_cancel _ positive, apart]

theorem readsBack_whole {n : Nat} (grid : OnGrid (n * unitsPerOne))
    : readsBack ⟨n, 0⟩ (n * unitsPerOne) = true := by
  have same : nearest ⟨n, 0⟩ = n * unitsPerOne := by
    rw [nearest, quotient, if_neg (lt_irrefl _)]
    dsimp only
    rw [Int.natAbs_zero, Nat.pow_zero, Nat.mul_one, nearestUnits_self grid]
  exact beq_iff_eq.mpr same

/-- A first neighbour that reads back is the candidate. -/
theorem candidate?_of_near {tie : TieRule} {units : Nat} {exponent : Int} {near far : Decimal}
    (found : neighbours tie units exponent = (near, far)) (back : near.readsBack units = true)
    : candidate? tie units exponent = some near := by
  unfold candidate?
  rw [found]
  exact if_pos back

/-- The search for a whole number that comes down to the whole numbers ends there or before, by
induction on the fuel.
-/
theorem searchFrom_whole (tie : TieRule) {n : Nat} (grid : OnGrid (n * unitsPerOne))
    {places fuel : Nat} (enough : places < fuel)
    : 0 ≤ (searchFrom tie (n * unitsPerOne) places fuel).exponent := by
  induction fuel generalizing places with
  | zero => exact absurd enough (Nat.not_lt_zero _)
  | succ fuel ih =>
      rw [searchFrom_succ]
      cases found : candidate? tie (n * unitsPerOne) places with
      | some d =>
          rw [Option.getD_some, exponent_of_candidate found]
          exact Int.natCast_nonneg _
      | none =>
          cases places with
          | zero =>
              have first := candidate?_of_near (neighbours_whole tie n) (readsBack_whole grid)
              exact absurd (found.symm.trans first) nofun
          | succ places =>
              have next : ((places + 1 : Nat) : Int) - 1 = places := by omega
              rw [Option.getD_none, next]
              exact ih (by omega)

/-- The search for a whole number starts at its first digit. -/
theorem leadingExponent_whole {n : Nat} (positive : 0 < n)
    : leadingExponent (n * unitsPerOne) = ((natDigits n).length - 1 : Nat) := by
  have scaled : n * unitsPerOne * 10 ^ exponentLimit / unitsPerOne = n * 10 ^ exponentLimit := by
    rw [Nat.mul_right_comm, Nat.mul_div_cancel _ unitsPerOne_pos]
  have long := natDigits_length_pos n
  have digits : (Nat.toDigits 10 (n * 10 ^ exponentLimit)).length
      = (natDigits n).length + exponentLimit := by
    rw [← natDigits, natDigits_mul_ten_pow positive, List.length_append, List.length_replicate]
  rw [leadingExponent, scaled, digits]
  omega

/-- Dropping zeros at the end only raises the exponent. -/
theorem le_exponent_withoutTrailingZeros (d : Decimal)
    : d.exponent ≤ d.withoutTrailingZeros.exponent := by
  induction d using withoutTrailingZeros.induct with
  | case1 d zero ih =>
      rw [withoutTrailingZeros, dif_pos zero]
      exact (Int.le_of_lt (Int.lt_succ _)).trans ih
  | case2 d zero => rw [withoutTrailingZeros, dif_neg zero]

/-- The shortest decimal of a whole number of at most 17 digits has no digit behind the point. -/
theorem shortest_whole (tie : TieRule) {n : Nat} (grid : OnGrid (n * unitsPerOne))
    (short : n < 10 ^ maxShortestDigits)
    : 0 ≤ (shortest tie (n * unitsPerOne)).exponent := by
  unfold shortest
  split
  · exact le_rfl
  next nonzero =>
    have positive : 0 < n := Nat.pos_of_ne_zero fun zero => nonzero (by rw [zero, Nat.zero_mul])
    have digits := (length_natDigits_le_iff (by decide)).mpr short
    have long := natDigits_length_pos n
    rw [leadingExponent_whole positive]
    exact (searchFrom_whole tie grid (by omega)).trans (le_exponent_withoutTrailingZeros _)

/-- A decimal without digits behind the point denotes a whole number. -/
theorem nearest_of_whole {d : Decimal} (whole : 0 ≤ d.exponent)
    : d.nearest = nearestUnits (d.digits * 10 ^ d.exponent.natAbs * unitsPerOne) 1 := by
  simp only [nearest, quotient, if_neg (Int.not_lt.mpr whole)]

/-- A whole number below `2 ^ 53` is written out in full by its shortest decimal. -/
theorem positional_whole (tie : TieRule) {n : Nat} (small : n < 2 ^ 53)
    : (shortest tie (n * unitsPerOne)).positional [] = natDigits n := by
  rcases Nat.eq_zero_or_pos n with rfl | positive
  · rw [Nat.zero_mul, shortest, if_pos rfl]
    rfl
  have grid := onGrid_whole small.le
  have nonzero : n * unitsPerOne ≠ 0 := (Nat.mul_pos positive unitsPerOne_pos).ne'
  have whole := shortest_whole tie grid (small.trans (by decide))
  have digits := shortest_digits_pos tie grid nonzero
  have same := nearest_shortest tie grid
  rw [nearest_of_whole whole] at same
  have number := eq_of_nearestUnits_whole small same
  unfold positional
  dsimp only
  rw [if_neg (Int.not_lt.mpr whole), List.append_nil, ← natDigits_mul_ten_pow digits, number]

end Decimal

end PerfLedger
