import Mathlib.Tactic.Linarith
import PerfLedger.Proofs.Double.Order
import PerfLedger.Proofs.Double.WholeNumbers

/-! The mean of equal numbers. Each rounding is off by at most one part in `2 ^ 53`, so the sum of
`n` equal numbers is off by at most `n` such parts and their mean by twice as many.
-/

namespace PerfLedger

-----------------------------------------------------------------------------------------
-- Distances
-----------------------------------------------------------------------------------------

/-- Rounding is off by at most one half. -/
theorem roundHalfEven_near {num den : Nat} (positive : 0 < den)
    : 2 * (roundHalfEven num den * den) ≤ 2 * num + den
      ∧ 2 * num ≤ 2 * (roundHalfEven num den * den) + den := by
  have parts := Nat.div_add_mod num den
  have rest := Nat.mod_lt num positive
  have next : (num / den + 1) * den = den * (num / den) + den := by ring
  have this : num / den * den = den * (num / den) := Nat.mul_comm _ _
  unfold roundHalfEven
  dsimp only
  split
  · omega
  · split
    · omega
    · split <;> omega

/-- Neighbours are one unit apart, or by at most one part in `2 ^ 52`. -/
theorem spacing_le (units : Nat) : spacing units = 1 ∨ 2 ^ 52 * spacing units ≤ units := by
  by_cases small : units.log2 ≤ 52
  · exact .inl (by rw [spacing, Nat.sub_eq_zero_of_le small, Nat.pow_zero])
  · have nonzero : units ≠ 0 := by
      rintro rfl
      exact small (by decide)
    refine .inr ?_
    calc 2 ^ 52 * spacing units
        = 2 ^ units.log2 := by rw [spacing, ← Nat.pow_add, Nat.add_sub_cancel' (by omega)]
      _ ≤ units := Nat.log2_self_le nonzero

/-- A quotient is rounded by at most one half of the spacing. -/
theorem nearestUnits_near (num : Nat) {den : Nat} (positive : 0 < den)
    : 2 * (nearestUnits num den * den) ≤ 2 * num + den * spacing (num / den)
      ∧ 2 * num ≤ 2 * (nearestUnits num den * den) + den * spacing (num / den) := by
  have scaled : nearestUnits num den * den
      = roundHalfEven num (den * spacing (num / den)) * (den * spacing (num / den)) := by
    rw [nearestUnits]
    ring
  rw [scaled]
  exact roundHalfEven_near (Nat.mul_pos positive (Nat.two_pow_pos _))

/-- A whole number of units is rounded by at most one part in `2 ^ 53`. -/
theorem nearestUnits_near_whole (units : Nat)
    : 2 ^ 53 * nearestUnits units 1 ≤ (2 ^ 53 + 1) * units
      ∧ 2 ^ 53 * units ≤ 2 ^ 53 * nearestUnits units 1 + units := by
  obtain ⟨above, below⟩ := nearestUnits_near units Nat.one_pos
  rw [Nat.div_one] at above below
  rcases spacing_le units with one | gap
  · rw [nearestUnits_self (by simp [OnGrid, one, Nat.mod_one])]
    omega
  · omega

-----------------------------------------------------------------------------------------
-- Sums
-----------------------------------------------------------------------------------------

/-- The sum of equal numbers of units, rounded at each step. -/
def repeatedSum (units : Nat) : Nat → Nat
  | 0 => 0
  | count + 1 => nearestUnits (repeatedSum units count + units) 1

/-- One more rounding of a sum adds one more part in `grain` to what it is too high. -/
theorem sum_le_step {grain count units sum next : Nat}
    (rounded : grain * next ≤ (grain + 1) * (sum + units))
    (bound : (grain - count) * sum ≤ grain * (count * units))
    : (grain - (count + 1)) * next ≤ grain * ((count + 1) * units) := by
  rcases Nat.lt_or_ge count grain with below | above
  · obtain ⟨rest, rfl⟩ := Nat.exists_eq_add_of_lt below
    rw [show count + rest + 1 - count = rest + 1 by omega] at bound
    rw [show count + rest + 1 - (count + 1) = rest by omega]
    generalize whole : count + rest + 1 = grain at *
    have fewer : rest * (grain + 1) ≤ grain * (rest + 1) := by nlinarith
    have few : rest + 1 ≤ grain := by omega
    refine Nat.le_of_mul_le_mul_left ?_ (Nat.zero_lt_of_lt few)
    calc grain * (rest * next)
        = rest * (grain * next) := by ring
      _ ≤ rest * ((grain + 1) * (sum + units)) := Nat.mul_le_mul_left _ rounded
      _ = rest * (grain + 1) * (sum + units) := by ring
      _ ≤ grain * (rest + 1) * (sum + units) := Nat.mul_le_mul_right _ fewer
      _ = grain * ((rest + 1) * sum + (rest + 1) * units) := by ring
      _ ≤ grain * (grain * (count * units) + grain * units) :=
          Nat.mul_le_mul_left _ (Nat.add_le_add bound (Nat.mul_le_mul_right _ few))
      _ = grain * (grain * ((count + 1) * units)) := by ring
  · rw [Nat.sub_eq_zero_of_le (by omega), Nat.zero_mul]
    exact Nat.zero_le _

/-- One more rounding of a sum adds one more part in `grain` to what it is too low. -/
theorem le_sum_step {grain count units sum next : Nat}
    (rounded : grain * (sum + units) ≤ grain * next + (sum + units))
    (bound : (grain - count) * (count * units) ≤ grain * sum)
    : (grain - (count + 1)) * ((count + 1) * units) ≤ grain * next := by
  rcases Nat.lt_or_ge count grain with below | above
  · obtain ⟨rest, rfl⟩ := Nat.exists_eq_add_of_lt below
    rw [show count + rest + 1 - count = rest + 1 by omega] at bound
    rw [show count + rest + 1 - (count + 1) = rest by omega]
    have lower : (count + rest) * (sum + units) ≤ (count + rest + 1) * next := by linarith
    generalize whole : count + rest + 1 = grain at *
    have fewer
        : grain * (rest * (count + 1)) ≤ (count + rest) * ((rest + 1) * count + grain) := by
      rw [← whole]
      nlinarith
    refine Nat.le_of_mul_le_mul_left ?_ (show 0 < grain by omega)
    calc grain * (rest * ((count + 1) * units))
        = grain * (rest * (count + 1)) * units := by ring
      _ ≤ (count + rest) * ((rest + 1) * count + grain) * units := Nat.mul_le_mul_right _ fewer
      _ = (count + rest) * ((rest + 1) * (count * units) + grain * units) := by ring
      _ ≤ (count + rest) * (grain * sum + grain * units) :=
          Nat.mul_le_mul_left _ (Nat.add_le_add_right bound _)
      _ = grain * ((count + rest) * (sum + units)) := by ring
      _ ≤ grain * (grain * next) := Nat.mul_le_mul_left _ lower
  · rw [Nat.sub_eq_zero_of_le (by omega), Nat.zero_mul]
    exact Nat.zero_le _

/-- The sum of `count` equal numbers is off by at most `count` parts in `2 ^ 53`, by induction on
their number.
-/
theorem repeatedSum_near (units count : Nat)
    : (2 ^ 53 - count) * repeatedSum units count ≤ 2 ^ 53 * (count * units)
      ∧ (2 ^ 53 - count) * (count * units) ≤ 2 ^ 53 * repeatedSum units count := by
  induction count with
  | zero => simp [repeatedSum]
  | succ count ih =>
      obtain ⟨above, below⟩ := nearestUnits_near_whole (repeatedSum units count + units)
      exact ⟨sum_le_step above ih.1, le_sum_step below ih.2⟩

/-- Sums that are doubles all along are exact, by induction on their number. -/
theorem repeatedSum_eq {units count : Nat} (grid : ∀ k ≤ count, OnGrid (k * units))
    : repeatedSum units count = count * units := by
  induction count with
  | zero => simp [repeatedSum]
  | succ count ih =>
      rw [repeatedSum, ih fun k few => grid k (few.trans (Nat.le_succ _)), ← Nat.succ_mul]
      exact nearestUnits_self (grid _ le_rfl)

/-- A size of at most 53 bits is on the grid. -/
theorem onGrid_of_le {units : Nat} (small : units ≤ 2 ^ 53) : OnGrid units := by
  simpa using onGrid_of_significand small 0

theorem onGrid_repeatedSum (units count : Nat) : OnGrid (repeatedSum units count) := by
  cases count with
  | zero => exact onGrid_of_le (Nat.zero_le _)
  | succ count => exact nearestUnits_onGrid _ _

-----------------------------------------------------------------------------------------
-- Means
-----------------------------------------------------------------------------------------

/-- The mean of exact sums is exact. -/
theorem nearestUnits_mean {units count : Nat} (positive : 0 < count) (grid : OnGrid units)
    : nearestUnits (count * units) count = units := by
  have scaled := nearestUnits_scale units 1 positive
  rwa [Nat.one_mul, nearestUnits_self grid, Nat.mul_comm] at scaled

section
variable {count rest units sum mean gap : Nat}

/-- A mean is too high by what its sum is, and by half of the spacing. -/
theorem mean_le (positive : 0 < count)
    (summed : (2 * rest + count) * sum ≤ 2 * (count + rest) * (count * units))
    (rounded : 2 * (mean * count) ≤ 2 * sum + count * gap)
    (small : (count + rest) * (count * gap) ≤ count * (count * units))
    : rest * mean ≤ (count + rest) * units := by
  let whole := count + rest
  let scale := 2 * rest + count
  have few : rest * scale ≤ 2 * whole * whole := by
    simp only [whole, scale]
    nlinarith
  have factor : 0 < 2 * whole * scale * count := by
    simp only [whole, scale]
    positivity
  refine Nat.le_of_mul_le_mul_left ?_ factor
  calc 2 * whole * scale * count * (rest * mean)
      = rest * (scale * (whole * (2 * (mean * count)))) := by ring
    _ ≤ rest * (scale * (whole * (2 * sum + count * gap))) := by gcongr
    _ = rest * (2 * whole * (scale * sum) + scale * (whole * (count * gap))) := by ring
    _ ≤ rest * (2 * whole * (2 * whole * (count * units)) + scale * (count * (count * units))) := by
        gcongr
    _ = 4 * whole * whole * rest * count * units + rest * scale * count * count * units := by ring
    _ ≤ 4 * whole * whole * rest * count * units + 2 * whole * whole * count * count * units := by
        gcongr
    _ = 2 * whole * scale * count * (whole * units) := by
        simp only [scale]
        ring

/-- A mean is too low by what its sum is, and by half of the spacing. -/
theorem le_mean (positive : 0 < count)
    (summed : (2 * rest + count) * (count * units) ≤ 2 * (count + rest) * sum)
    (rounded : 2 * sum ≤ 2 * (mean * count) + count * gap)
    (small : (count + rest) * (count * gap) ≤ count * (count * units))
    : rest * units ≤ (count + rest) * mean := by
  have scaled : (count + rest) * (2 * sum) ≤ (count + rest) * (2 * (mean * count) + count * gap) :=
    Nat.mul_le_mul_left _ rounded
  refine Nat.le_of_mul_le_mul_left ?_ (show 0 < 2 * count by omega)
  nlinarith

/-- Beside a sum of more than 53 bits the spacing of the mean is small. -/
theorem gap_le (whole : 2 ^ 52 = count + rest) (several : 2 ≤ count)
    (large : 2 * (count + rest) < count * units)
    (summed : (2 * rest + count) * sum ≤ 2 * (count + rest) * (count * units))
    : (count + rest) * (count * spacing (sum / count)) ≤ count * (count * units) := by
  rcases spacing_le (sum / count) with one | wide
  · rw [one, Nat.mul_one, Nat.mul_comm]
    exact Nat.mul_le_mul_left _ (by omega)
  · rw [whole] at wide
    have most : sum ≤ 2 * (count * units) := by
      refine Nat.le_of_mul_le_mul_left ?_ (show 0 < count + rest by omega)
      calc (count + rest) * sum
          ≤ (2 * rest + count) * sum := Nat.mul_le_mul_right _ (by omega)
        _ ≤ 2 * (count + rest) * (count * units) := summed
        _ = (count + rest) * (2 * (count * units)) := by ring
    calc (count + rest) * (count * spacing (sum / count))
        = count * ((count + rest) * spacing (sum / count)) := by ring
      _ ≤ count * (sum / count) := Nat.mul_le_mul_left _ wide
      _ ≤ sum := Nat.mul_div_le _ _
      _ ≤ 2 * (count * units) := most
      _ ≤ count * (count * units) := Nat.mul_le_mul_right _ several

end

/-- The mean of `count` equal numbers is off by at most `count` parts in `2 ^ 52`. Sums of less than
53 bits are exact, and above the spacing is small beside the numbers.
-/
theorem mean_near {units count : Nat} (positive : 0 < count) (grid : OnGrid units)
    : let mean := nearestUnits (repeatedSum units count) count
      (2 ^ 52 - count) * mean ≤ 2 ^ 52 * units ∧ (2 ^ 52 - count) * units ≤ 2 ^ 52 * mean := by
  by_cases exact : ∀ k ≤ count, OnGrid (k * units)
  · have same : nearestUnits (repeatedSum units count) count = units := by
      rw [repeatedSum_eq exact, nearestUnits_mean positive grid]
    rw [same]
    have fewer : (2 ^ 52 - count) * units ≤ 2 ^ 52 * units :=
      Nat.mul_le_mul_right _ (Nat.sub_le _ _)
    exact ⟨fewer, fewer⟩
  rcases Nat.lt_or_ge count (2 ^ 52) with few | many
  · have large : 2 ^ 53 < count * units := by
      refine Nat.lt_of_not_le fun small => exact fun k fewer => onGrid_of_le ?_
      exact (Nat.mul_le_mul_right _ fewer).trans small
    have several : 2 ≤ count := by
      refine Nat.lt_of_not_le fun one => exact fun k fewer => ?_
      rcases Nat.le_one_iff_eq_zero_or_eq_one.mp (fewer.trans one) with rfl | rfl
      · exact onGrid_of_le (by simp)
      · simpa using grid
    obtain ⟨above, below⟩ := nearestUnits_near (repeatedSum units count) positive
    obtain ⟨high, low⟩ := repeatedSum_near units count
    obtain ⟨rest, whole⟩ := Nat.exists_eq_add_of_le few.le
    have double : 2 ^ 53 = 2 * (count + rest) := by rw [← whole]
    have share : 2 * (count + rest) - count = 2 * rest + count := by omega
    rw [double] at large
    rw [double, share] at high low
    have small := gap_le whole several large high
    rw [whole, Nat.add_sub_cancel_left]
    exact ⟨mean_le positive high above small, le_mean positive low below small⟩
  · simp only [Nat.sub_eq_zero_of_le many, Nat.zero_mul]
    exact ⟨Nat.zero_le _, Nat.zero_le _⟩

-----------------------------------------------------------------------------------------
-- Doubles
-----------------------------------------------------------------------------------------

namespace Double

theorem Alike.isFinite_eq {x x' : Double} (h : Alike x x') : x.isFinite = x'.isFinite := by
  cases h <;> rfl

theorem Alike.trans {x y z : Double} (h : Alike x y) (h' : Alike y z) : Alike x z := by
  cases h with
  | nan => exact h'
  | infinite => exact h'
  | finite zero _ =>
      cases h' with
      | finite _ zero' => exact .finite zero zero'

theorem ofQuotient_zero (negative : Bool) (den : Nat) : ofQuotient negative 0 den = zero negative :=
  have rounded : nearestUnits 0 den = Magnitude.zero.units := nearestUnits_zero den
  ofQuotient_eq_finite negative rounded

theorem ofQuotient_units (size : Magnitude) : ofQuotient false size.units 1 = .finite false size :=
  ofQuotient_eq_finite false (nearestUnits_self size.onGrid)

/-- One more addition to a sum on the grid, in range or not. -/
theorem ofQuotient_add {sum : Nat} (grid : OnGrid sum) (size : Magnitude)
    : (ofQuotient false sum 1).add (.finite false size)
      = ofQuotient false (nearestUnits (sum + size.units) 1) 1 := by
  have again : nearestUnits (nearestUnits (sum + size.units) 1) 1
      = nearestUnits (sum + size.units) 1 :=
    nearestUnits_self (nearestUnits_onGrid _ _)
  rw [ofQuotient_congr false again]
  by_cases inRange : nearestUnits sum 1 < unitsLimit
  · have rounded : ofQuotient false sum 1 = .finite false ⟨sum, grid, by
        rwa [nearestUnits_self grid] at inRange⟩ :=
      ofQuotient_eq_finite false (nearestUnits_self grid)
    have whole : ((sum : Int) + size.units).natAbs = sum + size.units := by omega
    rw [rounded]
    simp only [add, signedUnits, Bool.false_eq_true, if_false, whole]
    split
    next none =>
      have zero : sum + size.units = 0 := by omega
      rw [zero, ofQuotient_zero]
      rfl
    next => rw [decide_eq_false (by omega)]
  · have more : nearestUnits sum 1 ≤ nearestUnits (sum + size.units) 1 :=
      nearestUnits_mono_num 1 (Nat.le_add_right _ _)
    rw [ofQuotient_eq_infinite false (Nat.not_lt.mp inRange),
      ofQuotient_eq_infinite false ((Nat.not_lt.mp inRange).trans more)]
    rfl

/-- The sum of equal numbers, by induction on their number. -/
theorem alike_sum_replicate (size : Magnitude) (count : Nat)
    : Alike (sum (List.replicate count (.finite false size)))
        (ofQuotient false (repeatedSum size.units count) 1) := by
  induction count with
  | zero =>
      rw [repeatedSum, ofQuotient_zero]
      exact .finite (fun _ => rfl) nofun
  | succ count ih =>
      have last : sum (List.replicate count (.finite false size) ++ [.finite false size])
          = (sum (List.replicate count (.finite false size))).add (.finite false size) :=
        List.foldl_append
      rw [List.replicate_succ', last, repeatedSum,
        ← ofQuotient_add (onGrid_repeatedSum size.units count)]
      exact ih.add (.finite nofun nofun)

/-- A count of at most 53 bits is exact. -/
theorem ofNat_eq_finite {n : Nat} (few : n ≤ 2 ^ 53)
    : ∃ size : Magnitude, size.units = n * unitsPerOne ∧ ofNat n = .finite false size := by
  have finite := isFinite_ofNat few (by decide)
  unfold ofNat ofQuotient at finite ⊢
  split at finite
  next inRange => exact ⟨⟨_, _, inRange⟩, nearestUnits_whole few, by rw [dif_pos inRange]⟩
  next => contradiction

/-- A sum in range is divided by the number of its terms with one rounding. -/
theorem ofQuotient_div_ofNat {sum count : Nat} (positive : 0 < count) (few : count ≤ 2 ^ 53)
    (grid : OnGrid sum) (inRange : sum < unitsLimit)
    : (ofQuotient false sum 1).div (ofNat count) = ofQuotient false sum count := by
  obtain ⟨size, units, counted⟩ := ofNat_eq_finite few
  have one := unitsPerOne_pos
  have nonzero : size.units ≠ 0 := by
    rw [units]
    exact (Nat.mul_pos positive one).ne'
  rw [counted, ofQuotient_units ⟨sum, grid, inRange⟩]
  simp only [div, if_neg nonzero, bne_self_eq_false]
  rw [units]
  exact ofQuotient_congr false (nearestUnits_scale _ _ one)

/-- A mean that is in range is finite, and near the terms. -/
theorem alike_mean_replicate {size : Magnitude} {count : Nat} (positive : 0 < count)
    (few : count ≤ 2 ^ 53)
    (finite : (sum (List.replicate count (.finite false size))).isFinite = true)
    : ∃ mean : Magnitude, mean.units = nearestUnits (repeatedSum size.units count) count
        ∧ Alike (Double.mean (List.replicate count (.finite false size)))
            (.finite false mean) := by
  have summed := alike_sum_replicate size count
  have grid := onGrid_repeatedSum size.units count
  have inRange : repeatedSum size.units count < unitsLimit := by
    rw [summed.isFinite_eq] at finite
    refine Nat.lt_of_not_le fun large => ?_
    rw [← nearestUnits_self grid] at large
    rw [ofQuotient_eq_infinite false large] at finite
    contradiction
  have below : nearestUnits (repeatedSum size.units count) count < unitsLimit := by
    refine lt_of_le_of_lt ?_ inRange
    conv_rhs => rw [← nearestUnits_self grid]
    exact nearestUnits_mono positive Nat.one_pos (Nat.mul_le_mul_left _ positive)
  refine ⟨⟨_, nearestUnits_onGrid _ _, below⟩, rfl, ?_⟩
  have divided := summed.div (alike_ofNat count) (isZero_ofNat positive.ne')
  rw [ofQuotient_div_ofNat positive few grid inRange, ofQuotient, dif_pos below] at divided
  rwa [mean, List.length_replicate]

/-- Zero is divided to zero. -/
theorem alike_zero_div {y : Double} (finite : y.isFinite = true) (nonzero : y.isZero = false)
    : Alike ((zero false).div y) (zero false) := by
  cases y with
  | nan => contradiction
  | infinite => contradiction
  | finite negative size =>
      have units : size.units ≠ 0 := by simpa [isZero] using nonzero
      simp only [Double.zero, div, if_neg units, Magnitude.zero, Nat.zero_mul, ofQuotient_zero]
      exact .finite (fun _ => rfl) (fun _ => rfl)

/-- What is infinite stays so when divided. -/
theorem alike_infinite_div {y : Double} (finite : y.isFinite = true) (hy : Alike y y)
    (nonzero : y.isZero = false)
    : Alike ((infinite false).div y) (.infinite false) := by
  cases hy with
  | nan => contradiction
  | infinite => contradiction
  | @finite negative _ size zero =>
      have units : size.units ≠ 0 := by simpa [isZero] using nonzero
      have sign : negative = false := Bool.eq_false_iff.mpr fun sign => units (zero sign)
      rw [sign]
      exact .infinite

/-- The sum of zeros is zero. -/
theorem alike_sum_zeros (count : Nat)
    : Alike (sum (List.replicate count (zero false))) (zero false) := by
  have nothing : repeatedSum Magnitude.zero.units count = count * 0 :=
    repeatedSum_eq fun k _ => onGrid_of_le (Nat.zero_le _)
  have summed := alike_sum_replicate Magnitude.zero count
  rwa [nothing, Nat.mul_zero, ofQuotient_zero] at summed

/-- The mean of zeros is zero. -/
theorem alike_mean_zeros {count bits : Nat} (positive : 0 < count) (few : count ≤ 2 ^ bits)
    (small : bits ≤ 1000)
    : Alike (mean (List.replicate count (zero false))) (zero false) := by
  have nonzero := isZero_ofNat positive.ne'
  rw [mean, List.length_replicate]
  exact ((alike_sum_zeros count).div (alike_ofNat count) nonzero).trans
    (alike_zero_div (isFinite_ofNat few small) nonzero)

/-- The mean of a sum beyond the range is infinite. -/
theorem alike_mean_infinite {size : Magnitude} {count bits : Nat} (positive : 0 < count)
    (few : count ≤ 2 ^ bits) (small : bits ≤ 1000)
    (beyond : (sum (List.replicate count (.finite false size))).isFinite = false)
    : Alike (mean (List.replicate count (.finite false size))) (.infinite false) := by
  have nonzero := isZero_ofNat positive.ne'
  have summed := alike_sum_replicate size count
  have divided := summed.div (alike_ofNat count) nonzero
  rw [summed.isFinite_eq] at beyond
  rw [mean, List.length_replicate]
  refine divided.trans ?_
  by_cases inRange : nearestUnits (repeatedSum size.units count) 1 < unitsLimit
  · rw [ofQuotient, dif_pos inRange] at beyond
    exact Bool.noConfusion beyond
  · rw [ofQuotient_eq_infinite false (Nat.not_lt.mp inRange)]
    exact alike_infinite_div (isFinite_ofNat few small) (alike_ofNat count) nonzero

/-- Multiples of a number that are doubles, all of them up to some count, are no more than there are
whole doubles without gaps.
-/
theorem le_of_onGrid_multiples {units count : Nat} (nonzero : units ≠ 0)
    (grid : ∀ k ≤ count, OnGrid (k * units))
    : count ≤ 2 ^ 53 := by
  refine Nat.le_of_not_lt fun many => ?_
  let multiple := (2 ^ 53 + 1) * units
  have divides : spacing multiple ∣ (2 ^ 53 + 1) * units :=
    Nat.dvd_of_mod_eq_zero (grid (2 ^ 53 + 1) many)
  have apart : Nat.Coprime (spacing multiple) (2 ^ 53 + 1) :=
    Nat.Coprime.pow_left _ (by decide)
  have size : spacing multiple ≤ units :=
    Nat.le_of_dvd (Nat.pos_of_ne_zero nonzero) (apart.dvd_of_dvd_mul_left divides)
  have bits : multiple < 2 ^ 53 * spacing multiple := by
    refine Nat.lt_of_lt_of_le Nat.lt_log2_self ?_
    rw [spacing, ← Nat.pow_add]
    exact Nat.pow_le_pow_right (by decide) (by omega)
  have most : 2 ^ 53 * spacing multiple ≤ 2 ^ 53 * units := Nat.mul_le_mul_left _ size
  simp only [multiple] at bits most
  omega

end Double

end PerfLedger
