import PerfLedger.Proofs.Double.Monotone
import PerfLedger.Proofs.Double.Signs

/-! The order of doubles through division. A quotient of numbers that are not below zero does not
fall when its numerator grows or its denominator shrinks, an infinite numerator included.
-/

namespace PerfLedger.Double

variable {bound x y z : Double}

/-- What is above a bound stays above it when it does not fall. -/
theorem lt_of_lt_of_not_lt (above : bound.lt x = true) (kept : y.lt x = false)
    (number : y ≠ .nan)
    : bound.lt y = true := by
  cases bound <;> cases x <;> cases y <;> simp_all [lt]
  omega

/-- What is above a bound is above all that are not greater than the bound. -/
theorem lt_of_not_lt_of_lt (raised : y.lt bound = false) (above : y.lt x = true)
    (number : bound ≠ .nan)
    : bound.lt x = true := by
  cases bound <;> cases x <;> cases y <;> simp_all [lt]
  omega

theorem not_lt_self (x : Double) : x.lt x = false := by
  cases x <;> simp [lt]

theorem not_infinite_lt (x : Double) : (infinite false).lt x = false := by
  cases x <;> rfl

theorem nearestUnits_zero (den : Nat) : nearestUnits 0 den = 0 := by
  simp [nearestUnits, roundHalfEven]

/-- Of two rounded quotients that are not below zero the one of more units is not the lesser. -/
theorem not_ofQuotient_lt {s s' : Bool} {num den num' den' : Nat} (zero : s = true → num = 0)
    (zero' : s' = true → num' = 0) (order : nearestUnits num den ≤ nearestUnits num' den')
    : (ofQuotient s' num' den').lt (ofQuotient s num den) = false := by
  have none {s : Bool} {num den : Nat} (zero : s = true → num = 0) (sign : s = true)
      : nearestUnits num den = 0 := by
    rw [zero sign, nearestUnits_zero]
  by_cases inRange : nearestUnits num' den' < unitsLimit
  · simp only [ofQuotient, dif_pos inRange, dif_pos (order.trans_lt inRange), lt]
    rw [signedUnits_eq_units (none zero'), signedUnits_eq_units (none zero)]
    simpa using order
  · have sign : s' = false := by
      apply Bool.eq_false_iff.mpr
      intro sign
      apply inRange
      rw [none zero' sign]
      exact Magnitude.zero.inRange
    rw [sign, ofQuotient_eq_infinite false (Nat.not_lt.mp inRange)]
    exact not_infinite_lt _

/-- The size of a number that is not below zero does not fall when the number does not. -/
theorem units_le_of_not_lt {s t : Bool} {m n : Magnitude} (zero : s = true → m.units = 0)
    (zero' : t = true → n.units = 0) (grown : (finite t n).lt (finite s m) = false)
    : m.units ≤ n.units := by
  simpa [lt, signedUnits_eq_units zero, signedUnits_eq_units zero'] using grown

/-- What does not exceed a zero is a zero. -/
theorem isZero_of_not_lt (hx : Alike x x) (hy : Alike y y) (finiteX : x.isFinite = true)
    (finiteY : y.isFinite = true) (shrunk : x.lt y = false) (zero : x.isZero = true)
    : y.isZero = true := by
  cases hx with
  | nan => contradiction
  | infinite => contradiction
  | @finite s _ m none =>
      cases hy with
      | nan => contradiction
      | infinite => contradiction
      | @finite t _ n none' =>
          have order := units_le_of_not_lt none' none shrunk
          have units : m.units = 0 := by simpa [isZero] using zero
          simpa [isZero, units] using order

/-- A quotient does not fall when its numerator grows. -/
theorem not_div_lt_of_numerator (hx : Alike x x) (hy : Alike y y) (hz : Alike z z)
    (grown : y.lt x = false) (finiteX : x.isFinite = true) (finiteY : y.isFinite = true)
    (nonzero : z.isZero = false)
    : (y.div z).lt (x.div z) = false := by
  cases hx with
  | nan => contradiction
  | infinite => contradiction
  | @finite s _ m zero =>
      cases hy with
      | nan => contradiction
      | infinite => contradiction
      | @finite t _ n zero' =>
          have order := units_le_of_not_lt zero zero' grown
          cases hz with
          | nan => rfl
          | infinite => simp [div, Double.zero, lt, signedUnits, Magnitude.zero]
          | @finite u _ k none =>
              have units : k.units ≠ 0 := by simpa [isZero] using nonzero
              have sign : u = false := Bool.eq_false_iff.mpr fun sign => units (none sign)
              subst sign
              simp only [div, if_neg units]
              refine not_ofQuotient_lt (fun sign => ?_) (fun sign => ?_) ?_
              · simp [zero (by simpa using sign)]
              · simp [zero' (by simpa using sign)]
              · exact nearestUnits_mono_num _ (Nat.mul_le_mul_right _ order)

/-- A quotient does not fall when its denominator shrinks. -/
theorem not_div_lt_of_denominator (hx : Alike x x) (hy : Alike y y) (hz : Alike z z)
    (shrunk : x.lt y = false) (finiteX : x.isFinite = true) (finiteY : y.isFinite = true)
    (nonzeroX : x.isZero = false) (nonzeroY : y.isZero = false)
    : (z.div y).lt (z.div x) = false := by
  cases hx with
  | nan => contradiction
  | infinite => contradiction
  | @finite s _ m zero =>
      cases hy with
      | nan => contradiction
      | infinite => contradiction
      | @finite t _ n zero' =>
          have order := units_le_of_not_lt zero' zero shrunk
          have unitsX : m.units ≠ 0 := by simpa [isZero] using nonzeroX
          have unitsY : n.units ≠ 0 := by simpa [isZero] using nonzeroY
          have signX : s = false := Bool.eq_false_iff.mpr fun sign => unitsX (zero sign)
          have signY : t = false := Bool.eq_false_iff.mpr fun sign => unitsY (zero' sign)
          subst signX signY
          cases hz with
          | nan => rfl
          | infinite => rfl
          | @finite u _ k none =>
              simp only [div, if_neg unitsX, if_neg unitsY]
              refine not_ofQuotient_lt (fun sign => ?_) (fun sign => ?_) ?_
              · simp [none (by simpa using sign)]
              · simp [none (by simpa using sign)]
              · exact nearestUnits_mono (Nat.pos_of_ne_zero unitsX) (Nat.pos_of_ne_zero unitsY)
                  (Nat.mul_le_mul_left _ order)

/-- A quotient of what is not above zero is not above one. -/
theorem not_one_lt_div (hx : Alike x x) (nothing : (zero false).lt x = false)
    (finiteZ : z.isFinite = true) (nonzero : z.isZero = false)
    : (ofNat 1).lt (x.div z) = false := by
  cases z with
  | nan => contradiction
  | infinite => contradiction
  | finite t n =>
      cases hx with
      | nan => cases one : ofNat 1 <;> rfl
      | infinite => contradiction
      | @finite s _ m zero =>
          have units : n.units ≠ 0 := by simpa [isZero] using nonzero
          have none : m.units = 0 :=
            Nat.le_zero.mp (units_le_of_not_lt zero (fun _ => rfl) nothing)
          simp only [div, if_neg units, none, Nat.zero_mul]
          refine not_ofQuotient_lt (fun _ => rfl) (Bool.noConfusion ·) ?_
          rw [nearestUnits_zero]
          exact Nat.zero_le _

end PerfLedger.Double
