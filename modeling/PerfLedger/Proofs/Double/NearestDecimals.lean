import PerfLedger.Proofs.Double.Monotone
import PerfLedger.Proofs.Double.Neighbours

/-! The double of a decimal is the nearest one: no other double is nearer to the number that the
decimal denotes. Numbers too large for that are those from halfway above the greatest double on.
-/

namespace PerfLedger

-----------------------------------------------------------------------------------------
-- Nearest sizes
-----------------------------------------------------------------------------------------

section Sizes

variable {num den other : Nat}

/-- Dropping what is less than a step does not change the step: a power of two is kept. -/
theorem spacing_floor (units : Nat)
    : spacing (units / spacing units * spacing units) = spacing units := by
  by_cases small : units.log2 ≤ 52
  · have one : spacing units = 1 := by rw [spacing, Nat.sub_eq_zero_of_le small, Nat.pow_zero]
    rw [one, Nat.div_one, Nat.mul_one, one]
  · have nonzero : units ≠ 0 := by
      rintro rfl
      exact small (by decide)
    have divides : spacing units ∣ 2 ^ units.log2 := Nat.pow_dvd_pow 2 (Nat.sub_le _ _)
    have kept : 2 ^ units.log2 ≤ units / spacing units * spacing units := by
      obtain ⟨steps, power⟩ := divides
      have floor : steps ≤ units / spacing units := by
        have step : 0 < spacing units := Nat.two_pow_pos _
        rw [Nat.le_div_iff_mul_le step, Nat.mul_comm, ← power]
        exact Nat.log2_self_le nonzero
      rw [power, Nat.mul_comm]
      exact Nat.mul_le_mul_right _ floor
    have bits : (units / spacing units * spacing units).log2 = units.log2 := by
      have least := Nat.two_pow_pos units.log2
      refine le_antisymm ?_ ((Nat.le_log2 (by omega)).mpr kept)
      have below := (Nat.div_mul_le_self units (spacing units)).trans_lt Nat.lt_log2_self
      exact Nat.le_of_lt_succ ((Nat.log2_lt (by omega)).mpr below)
    rw [spacing, bits, spacing]

/-- Between a multiple of the step and the next one there is no size. -/
theorem step_le (units : Nat) (grid : OnGrid other)
    (above : units / spacing units * spacing units < other)
    : (units / spacing units + 1) * spacing units ≤ other := by
  have divides : spacing units ∣ other := by
    have grows := spacing_dvd above.le
    rw [spacing_floor] at grows
    exact grows.trans (Nat.dvd_of_mod_eq_zero grid)
  obtain ⟨steps, rfl⟩ := divides
  rw [Nat.mul_comm] at above
  rw [Nat.mul_comm (spacing units)]
  exact Nat.mul_le_mul_right _ (Nat.lt_of_mul_lt_mul_left above)

/-- A quotient is rounded to one of the two sizes that it lies between. -/
theorem nearestUnits_eq_or (num den : Nat)
    : nearestUnits num den = num / den / spacing (num / den) * spacing (num / den)
      ∨ nearestUnits num den = (num / den / spacing (num / den) + 1) * spacing (num / den) := by
  have bounds := roundHalfEven_bounds num (den * spacing (num / den))
  rw [← Nat.div_div_eq_div_mul] at bounds
  rcases Nat.le_or_eq_of_le_succ bounds.2 with low | high
  · exact .inl (congrArg (· * spacing (num / den)) (le_antisymm low bounds.1))
  · exact .inr (congrArg (· * spacing (num / den)) high)

/-- No size is nearer to a quotient than what it is rounded to. A size on the same side is no
nearer, and one on the other side is further away by half of a step at least.
-/
theorem nearestUnits_nearest (num : Nat) (positive : 0 < den) (grid : OnGrid other)
    : |(nearestUnits num den * den : Int) - num| ≤ |(other * den : Int) - num| := by
  have near := nearestUnits_near num positive
  have sides := nearestUnits_eq_or num den
  have between := step_le (num / den) grid
  have floor : num / den / spacing (num / den) * spacing (num / den) * den ≤ num :=
    (Nat.mul_le_mul_right _ (Nat.div_mul_le_self ..)).trans (Nat.div_mul_le_self num den)
  have ceiling : num < (num / den / spacing (num / den) + 1) * spacing (num / den) * den := by
    have step : 0 < spacing (num / den) := Nat.two_pow_pos _
    exact (Nat.div_lt_iff_lt_mul positive).mp
      ((Nat.div_lt_iff_lt_mul step).mp (Nat.lt_succ_self _))
  generalize nearestUnits num den = size at *
  generalize num / den / spacing (num / den) = steps at *
  generalize spacing (num / den) = step at *
  rw [Nat.succ_mul] at sides between ceiling
  rw [Nat.add_mul] at ceiling
  generalize steps * step = below at *
  have middle : size * den = below * den ∨ size * den = below * den + den * step :=
    sides.imp (congrArg (· * den)) fun high => by rw [high]; ring
  rw [Nat.mul_comm step] at ceiling
  rw [Int.abs_eq_natAbs, Int.abs_eq_natAbs]
  rcases Nat.lt_or_ge below other with above | under
  · have apart : below * den + den * step ≤ other * den := by
      rw [Nat.mul_comm den, ← Nat.add_mul]
      exact Nat.mul_le_mul_right _ (between above)
    omega
  · have apart : other * den ≤ below * den := Nat.mul_le_mul_right _ under
    omega

/-- Halfway between a power of two and the greatest size below it, the power is the even one. -/
theorem nearestUnits_halfway (exponent : Nat)
    : nearestUnits ((2 ^ 54 - 1) * 2 ^ exponent) 1 = 2 ^ (exponent + 54) := by
  have step : 0 < 2 ^ exponent := Nat.two_pow_pos _
  have double : 2 ^ (exponent + 1) = 2 * 2 ^ exponent := Nat.pow_succ'
  have bits : ((2 ^ 54 - 1) * 2 ^ exponent).log2 = exponent + 53 := by
    rw [Nat.log2_eq_iff (by omega), Nat.pow_add, Nat.pow_add _ exponent (53 + 1)]
    omega
  have gap : spacing ((2 ^ 54 - 1) * 2 ^ exponent) = 2 * 2 ^ exponent := by
    rw [spacing, bits, ← double]
    rfl
  have floor : (2 ^ 54 - 1) * 2 ^ exponent / (2 * 2 ^ exponent) = 2 ^ 53 - 1 := by
    rw [Nat.div_eq_iff (by omega)]
    omega
  have rest : (2 ^ 54 - 1) * 2 ^ exponent % (2 * 2 ^ exponent) = 2 ^ exponent := by
    have parts := Nat.div_add_mod ((2 ^ 54 - 1) * 2 ^ exponent) (2 * 2 ^ exponent)
    rw [floor] at parts
    omega
  have rounded : roundHalfEven ((2 ^ 54 - 1) * 2 ^ exponent) (2 * 2 ^ exponent) = 2 ^ 53 := by
    simp [roundHalfEven, floor, rest]
  rw [nearestUnits, Nat.div_one, gap, Nat.one_mul, rounded, Nat.pow_add]
  omega

/-- Rounding reaches a power of two from halfway above the greatest size below it on. -/
theorem two_pow_le_nearestUnits_iff (num : Nat) (positive : 0 < den) (exponent : Nat)
    : 2 ^ (exponent + 54) ≤ nearestUnits num den ↔ (2 ^ 54 - 1) * 2 ^ exponent * den ≤ num := by
  constructor
  · intro reached
    have grid : OnGrid ((2 ^ 53 - 1) * 2 ^ (exponent + 1)) :=
      onGrid_of_significand (by decide) _
    have nearest := nearestUnits_nearest num positive grid
    have high := Nat.mul_le_mul_right den reached
    have below : (2 ^ 53 - 1) * 2 ^ (exponent + 1) * den
        = (2 ^ 54 - 2) * (2 ^ exponent * den) := by
      rw [Nat.pow_succ]
      ring
    have power : 2 ^ (exponent + 54) * den = 2 ^ 54 * (2 ^ exponent * den) := by
      rw [Nat.pow_add]
      ring
    rw [Int.abs_eq_natAbs, Int.abs_eq_natAbs, ← Nat.cast_mul, ← Nat.cast_mul, below] at nearest
    rw [power] at high
    rw [Nat.mul_assoc]
    have positive : 0 < 2 ^ exponent * den := Nat.mul_pos (Nat.two_pow_pos _) positive
    generalize 2 ^ exponent * den = half at *
    omega
  · intro large
    rw [← nearestUnits_halfway]
    exact nearestUnits_mono Nat.one_pos positive (by rwa [Nat.mul_one])

end Sizes

-----------------------------------------------------------------------------------------
-- Nearest doubles
-----------------------------------------------------------------------------------------

/-- The number that a size denotes. -/
def Magnitude.value (size : Magnitude) : ℚ := size.units / unitsPerOne

namespace Decimal

/-- Too large for a double: at least halfway from the greatest double to `2 ^ 1024`. -/
def TooLarge (d : Decimal) : Prop := 2 ^ 1024 - 2 ^ 970 ≤ d.value

/-- A double than which none is nearer to a decimal. -/
def IsNearest (d : Decimal) (x : Double) : Prop :=
  ∃ size, x = .finite false size
    ∧ ∀ other : Magnitude, |size.value - d.value| ≤ |other.value - d.value|

/-- The units of a decimal that is too large are past those of the doubles. -/
theorem tooLarge_iff (d : Decimal) : d.TooLarge ↔ unitsLimit ≤ d.nearest := by
  obtain ⟨one, limit, oneEq, limitEq, oneSize, limitSize⟩ := units_eq_two_pow
  obtain ⟨half, halfSize⟩ : ∃ half, half = 970 := ⟨_, rfl⟩
  have threshold : (2 : ℚ) ^ 1024 - 2 ^ 970 = (2 ^ 54 - 1) * 2 ^ half := by
    rw [show 1024 = 54 + half by omega, ← halfSize, pow_add, sub_mul, one_mul]
  have limitParts : limit = half + one + 54 := by omega
  have den : (0 : ℚ) < d.quotient.2 := by exact_mod_cast d.quotient_pos
  have units : (0 : ℚ) < 2 ^ one := by positivity
  have num : (d.quotient.1 : ℚ) = d.value * 2 ^ one * d.quotient.2 := by
    rw [quotient_eq, oneEq]
    norm_num
  have cast : (((2 ^ 54 - 1) * 2 ^ (half + one) * d.quotient.2 : Nat) : ℚ)
      = (2 ^ 54 - 1) * 2 ^ half * 2 ^ one * d.quotient.2 := by
    push_cast
    ring
  rw [nearest, limitEq, limitParts, two_pow_le_nearestUnits_iff _ d.quotient_pos, TooLarge,
    threshold, ← Nat.cast_le (α := ℚ), cast, num, mul_le_mul_iff_left₀ den,
    mul_le_mul_iff_left₀ units]

/-- A distance to a decimal, counted in units over the denominator of the decimal. -/
theorem distance_eq (d : Decimal) (size : Magnitude)
    : |size.value - d.value| * (unitsPerOne * d.quotient.2)
      = |((size.units * d.quotient.2 - d.quotient.1 : Int) : ℚ)| := by
  have num := d.quotient_eq
  have positive := unitsPerOne_pos
  rw [Magnitude.value]
  generalize unitsPerOne = one at *
  have units : (one : ℚ) ≠ 0 := by exact_mod_cast positive.ne'
  have scale : (0 : ℚ) ≤ one * d.quotient.2 := by positivity
  rw [← abs_of_nonneg scale, ← abs_mul, sub_mul]
  push_cast
  rw [num]
  congr 1
  field_simp

/-- A decimal is read as infinite if it is too large, and else as a double nearest to it. -/
theorem toDouble_nearest (d : Decimal)
    : (d.TooLarge ∧ d.toDouble false = .infinite false)
      ∨ (¬ d.TooLarge ∧ d.IsNearest (d.toDouble false)) := by
  rw [toDouble_eq_ofQuotient, tooLarge_iff]
  by_cases large : unitsLimit ≤ d.nearest
  · exact .inl ⟨large, Double.ofQuotient_eq_infinite false large⟩
  · have inRange : nearestUnits d.quotient.1 d.quotient.2 < unitsLimit := Nat.not_le.mp large
    refine .inr ⟨large, _, dif_pos inRange, fun other => ?_⟩
    have scale : (0 : ℚ) < unitsPerOne * d.quotient.2 := by
      exact_mod_cast Nat.mul_pos unitsPerOne_pos d.quotient_pos
    rw [← mul_le_mul_iff_left₀ scale, distance_eq, distance_eq]
    exact_mod_cast nearestUnits_nearest d.quotient.1 d.quotient_pos other.onGrid

end Decimal

end PerfLedger
