import Mathlib.Data.List.Forall2
import PerfLedger.Proofs.Double.Nearest

/-! Arithmetic on numbers that are not below zero. Of their signs only those of zeros can
differ, and no sum, quotient or comparison depends on these.
-/

namespace PerfLedger

/-- Rounding at most doubles a quotient, or makes it one. -/
theorem nearestUnits_le (num den : Nat) : nearestUnits num den ≤ 2 * (num / den) + 1 := by
  have gap : spacing (num / den) ≤ num / den + 1 := by
    by_cases zero : num / den = 0
    · simp [zero, spacing]
    · calc spacing (num / den)
          ≤ 2 ^ (num / den).log2 := Nat.pow_le_pow_right (by decide) (Nat.sub_le _ _)
        _ ≤ num / den := Nat.log2_self_le zero
        _ ≤ num / den + 1 := Nat.le_succ _
  have rounded := (roundHalfEven_bounds num (den * spacing (num / den))).2
  rw [← Nat.div_div_eq_div_mul] at rounded
  calc nearestUnits num den
      ≤ (num / den / spacing (num / den) + 1) * spacing (num / den) :=
        Nat.mul_le_mul_right _ rounded
    _ = num / den / spacing (num / den) * spacing (num / den) + spacing (num / den) :=
        Nat.succ_mul _ _
    _ ≤ num / den + (num / den + 1) := Nat.add_le_add (Nat.div_mul_le_self _ _) gap
    _ = 2 * (num / den) + 1 := by omega

namespace Double

/-- The units of a number that is negative only as a zero. -/
theorem signedUnits_eq_units {negative : Bool} {size : Magnitude}
    (zero : negative = true → size.units = 0)
    : signedUnits negative size = size.units := by
  cases negative with
  | false => rfl
  | true => simp [signedUnits, zero rfl]

/-- Doubles that are the same number, not below zero. Zeros may differ in their signs. -/
inductive Alike : Double → Double → Prop where
  | nan : Alike .nan .nan
  | infinite : Alike (.infinite false) (.infinite false)
  | finite {left right : Bool} {size : Magnitude} (zero : left = true → size.units = 0)
      (zero' : right = true → size.units = 0)
      : Alike (.finite left size) (.finite right size)

variable {x x' y y' : Double}

-----------------------------------------------------------------------------------------
-- Comparisons
-----------------------------------------------------------------------------------------

/-- Numbers that are alike are equal, unless they are no numbers. -/
theorem Alike.equals (h : Alike x x') (number : x ≠ .nan) : x.equals x' = true := by
  cases h with
  | nan => contradiction
  | infinite => rfl
  | finite zero zero' =>
      simp [Double.equals, signedUnits_eq_units zero, signedUnits_eq_units zero']

theorem Alike.lt_eq (h : Alike x x') (bound : Double) : bound.lt x = bound.lt x' := by
  cases h with
  | nan => rfl
  | infinite => rfl
  | finite zero zero' =>
      cases bound <;> simp [Double.lt, signedUnits_eq_units zero, signedUnits_eq_units zero']

theorem Alike.isZero_eq (h : Alike x x') : x.isZero = x'.isZero := by
  cases h <;> rfl

-----------------------------------------------------------------------------------------
-- Sums and quotients
-----------------------------------------------------------------------------------------

/-- A rounded quotient that is negative only as a zero does not depend on its sign. -/
theorem alike_ofQuotient {left right : Bool} {num : Nat} (den : Nat)
    (zero : left = true → num = 0) (zero' : right = true → num = 0)
    : Alike (ofQuotient left num den) (ofQuotient right num den) := by
  have nothing : nearestUnits 0 den = 0 := by simp [nearestUnits, roundHalfEven]
  unfold ofQuotient
  split
  next inRange =>
    refine .finite (fun sign => ?_) (fun sign => ?_)
    · simpa [zero sign] using nothing
    · simpa [zero' sign] using nothing
  next large =>
    have positive : num ≠ 0 := by
      rintro rfl
      rw [nothing] at large
      exact large Magnitude.zero.inRange
    have left : left = false := Bool.eq_false_iff.mpr fun sign => positive (zero sign)
    have right : right = false := Bool.eq_false_iff.mpr fun sign => positive (zero' sign)
    rw [left, right]
    exact .infinite

theorem alike_ofNat (n : Nat) : Alike (ofNat n) (ofNat n) :=
  alike_ofQuotient 1 nofun nofun

theorem Alike.add (hx : Alike x x') (hy : Alike y y') : Alike (x.add y) (x'.add y') := by
  cases hx with
  | nan => exact .nan
  | infinite =>
      cases hy with
      | nan => exact .nan
      | infinite => exact .infinite
      | finite => exact .infinite
  | @finite _ _ m zero zero' =>
      cases hy with
      | nan => exact .nan
      | infinite => exact .infinite
      | @finite _ _ n none none' =>
          have positive : ¬ (m.units : Int) + n.units < 0 := by omega
          simp only [Double.add, signedUnits_eq_units zero, signedUnits_eq_units zero',
            signedUnits_eq_units none, signedUnits_eq_units none']
          split
          · exact .finite (fun _ => rfl) (fun _ => rfl)
          · exact alike_ofQuotient 1 (by simp [positive]) (by simp [positive])

/-- Sums are alike when their terms are, by induction on the terms from any start. -/
theorem alike_sum {terms terms' : List Double} (h : List.Forall₂ Alike terms terms')
    : Alike (sum terms) (sum terms') := by
  have folded {start start' : Double} (alike : Alike start start')
      : Alike (terms.foldl Double.add start) (terms'.foldl Double.add start') := by
    induction h generalizing start start' with
    | nil => exact alike
    | cons first _ ih => exact ih (alike.add first)
  exact folded (.finite (fun _ => rfl) (fun _ => rfl))

/-- Quotients by numbers that are not zero are alike when their parts are. -/
theorem Alike.div (hx : Alike x x') (hy : Alike y y') (nonzero : y.isZero = false)
    : Alike (x.div y) (x'.div y') := by
  cases hy with
  | nan => cases hx <;> exact .nan
  | infinite =>
      cases hx with
      | nan => exact .nan
      | infinite => exact .nan
      | finite => exact .finite (fun _ => rfl) (fun _ => rfl)
  | @finite left right n zero zero' =>
      have units : n.units ≠ 0 := by simpa [isZero] using nonzero
      have left : left = false := Bool.eq_false_iff.mpr fun sign => units (zero sign)
      have right : right = false := Bool.eq_false_iff.mpr fun sign => units (zero' sign)
      subst left right
      cases hx with
      | nan => exact .nan
      | infinite => exact .infinite
      | finite none none' =>
          simp only [Double.div, if_neg units]
          refine alike_ofQuotient _ (fun sign => ?_) (fun sign => ?_)
          · simp [none (by simpa using sign)]
          · simp [none' (by simpa using sign)]

-----------------------------------------------------------------------------------------
-- Means
-----------------------------------------------------------------------------------------

/-- A count that is not zero is not zero as a double. -/
theorem isZero_ofNat {n : Nat} (positive : n ≠ 0) : (ofNat n).isZero = false := by
  obtain ⟨one, -, units, -⟩ := Decimal.units_eq_two_pow
  have large : 2 ^ one ≤ nearestUnits (n * unitsPerOne) 1 := by
    refine two_pow_le_nearestUnits ?_
    rw [Nat.div_one, units]
    exact Nat.le_mul_of_pos_left _ (Nat.pos_of_ne_zero positive)
  have some : nearestUnits (n * unitsPerOne) 1 ≠ 0 :=
    Nat.ne_of_gt (Nat.lt_of_lt_of_le (Nat.two_pow_pos one) large)
  unfold ofNat ofQuotient
  split
  · simpa [isZero] using some
  · rfl

/-- A count is finite as a double unless it is huge. -/
theorem isFinite_ofNat {n bits : Nat} (count : n ≤ 2 ^ bits) (small : bits ≤ 1000)
    : (ofNat n).isFinite = true := by
  obtain ⟨one, limit, units, limits, _, _⟩ := Decimal.units_eq_two_pow
  have positive : 0 < 2 ^ bits * 2 ^ one :=
    Nat.mul_pos (Nat.two_pow_pos bits) (Nat.two_pow_pos one)
  have small : nearestUnits (n * unitsPerOne) 1 < unitsLimit :=
    calc nearestUnits (n * unitsPerOne) 1
        ≤ 2 * (n * unitsPerOne / 1) + 1 := nearestUnits_le _ _
      _ = 2 * (n * 2 ^ one) + 1 := by rw [Nat.div_one, units]
      _ ≤ 2 * (2 ^ bits * 2 ^ one) + 1 :=
          Nat.succ_le_succ (Nat.mul_le_mul_left 2 (Nat.mul_le_mul_right _ count))
      _ < 2 ^ 2 * (2 ^ bits * 2 ^ one) := by omega
      _ = 2 ^ (2 + (bits + one)) := by rw [Nat.pow_add, Nat.pow_add]
      _ ≤ 2 ^ limit := Nat.pow_le_pow_right (by decide) (by omega)
      _ = unitsLimit := limits.symm
  unfold ofNat ofQuotient
  rw [dif_pos small]
  rfl

/-- Means are alike when their terms are. -/
theorem alike_mean {terms terms' : List Double} (h : List.Forall₂ Alike terms terms')
    (some : terms ≠ [])
    : Alike (mean terms) (mean terms') := by
  have positive : terms.length ≠ 0 := fun none => some (List.eq_nil_of_length_eq_zero none)
  rw [mean, mean, ← h.length_eq]
  exact (alike_sum h).div (alike_ofNat _) (isZero_ofNat positive)

theorem ofQuotient_ne_nan (negative : Bool) (num den : Nat)
    : ofQuotient negative num den ≠ .nan := by
  unfold ofQuotient
  split <;> simp only [ne_eq, reduceCtorEq, not_false_eq_true]

/-- Numbers that are not below zero have a sum, by induction on them from any start. -/
theorem sum_ne_nan {terms : List Double} (h : ∀ x ∈ terms, Alike x x ∧ x ≠ .nan)
    : sum terms ≠ .nan := by
  have folded {start : Double} (alike : Alike start start) (number : start ≠ .nan)
      : terms.foldl Double.add start ≠ .nan := by
    induction terms generalizing start with
    | nil => exact number
    | cons x terms ih =>
        obtain ⟨⟨alikeFirst, numberFirst⟩, rest⟩ := List.forall_mem_cons.mp h
        refine ih rest (alike.add alikeFirst) ?_
        cases alike with
        | nan => contradiction
        | infinite =>
            cases alikeFirst with
            | nan => contradiction
            | infinite => exact nofun
            | finite => exact nofun
        | finite =>
            cases alikeFirst with
            | nan => contradiction
            | infinite => exact nofun
            | finite =>
                unfold Double.add
                dsimp only
                split
                · exact nofun
                · exact ofQuotient_ne_nan _ _ _
  exact folded (.finite (fun _ => rfl) (fun _ => rfl)) nofun

/-- A number over one that is finite and not zero is a number. -/
theorem div_ne_nan (number : x ≠ .nan) (finite : y.isFinite = true) (nonzero : y.isZero = false)
    : x.div y ≠ .nan := by
  cases y with
  | nan => contradiction
  | infinite => contradiction
  | finite negative n =>
      have units : n.units ≠ 0 := by simpa [isZero] using nonzero
      cases x with
      | nan => contradiction
      | infinite => exact nofun
      | finite =>
          simp only [Double.div, if_neg units]
          exact ofQuotient_ne_nan _ _ _

/-- Numbers that are not below zero have a mean, if there are any and their count is not huge.
-/
theorem mean_ne_nan {terms : List Double} {bits : Nat}
    (h : ∀ x ∈ terms, Alike x x ∧ x ≠ .nan) (some : terms ≠ [])
    (count : terms.length ≤ 2 ^ bits) (small : bits ≤ 1000)
    : mean terms ≠ .nan := by
  have positive : terms.length ≠ 0 := fun none => some (List.eq_nil_of_length_eq_zero none)
  exact div_ne_nan (sum_ne_nan h) (isFinite_ofNat count small) (isZero_ofNat positive)

end Double

end PerfLedger
