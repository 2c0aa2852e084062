import PerfLedger.Proofs.Double.WholeNumbers

/-! Texts of doubles in scripts, and where they differ from those in documents. Scripts write
more exponents positionally, and whole numbers always without a point.
-/

namespace PerfLedger

namespace Decimal

-----------------------------------------------------------------------------------------
-- Layouts
-----------------------------------------------------------------------------------------

/-- A text with an exponent differs from every text without one. -/
theorem positional_ne_scientific (c d : Decimal) {tail : List Char} (plain : 'e' ∉ tail)
    : c.positional tail ≠ d.scientific := by
  have digits (n : Nat) : 'e' ∉ natDigits n := fun member => by
    have digit := allDigits_natDigits n 'e' member
    contradiction
  have zeros (count : Nat) : 'e' ∉ List.replicate count '0' := fun member =>
    absurd (List.eq_of_mem_replicate member) (by decide)
  have without : 'e' ∉ c.positional tail := by
    have front (count : Nat) : 'e' ∉ (natDigits c.digits).take count := fun member =>
      digits _ (List.mem_of_mem_take member)
    have back (count : Nat) : 'e' ∉ (natDigits c.digits).drop count := fun member =>
      digits _ (List.mem_of_mem_drop member)
    unfold positional
    dsimp only
    split
    · split <;> simp [digits, zeros, front, back]
    · simp [digits, zeros, plain]
  have letter : 'e' ∈ d.scientific := by simp [scientific]
  exact fun same => without (same ▸ letter)

/-- Behind a fraction there is no tail. -/
theorem positional_of_fraction {d : Decimal} (fraction : d.exponent < 0) (tail tail' : List Char)
    : d.positional tail = d.positional tail' := by
  simp only [positional, if_pos fraction]

/-- Whole numbers are told apart by their tail. -/
theorem positional_inj_of_whole {d : Decimal} (whole : 0 ≤ d.exponent) {tail tail' : List Char}
    : d.positional tail = d.positional tail' ↔ tail = tail' := by
  simp only [positional, if_neg (Int.not_lt.mpr whole), List.append_cancel_left_eq]

end Decimal

-----------------------------------------------------------------------------------------
-- Script texts
-----------------------------------------------------------------------------------------

namespace Double

/-- Scientific exponents below this bound are written positionally in scripts. -/
def scriptUpperExponent : Int := 21

/-- Least scientific exponent that is written positionally in scripts. -/
def scriptLowerExponent : Int := -6

/-- Text of a finite magnitude in scripts: positional for the common exponents, scientific
outside them, and never with a point that nothing follows.
-/
def scriptDigits (size : Magnitude) : List Char :=
  let d := Decimal.shortest .toEven size.units
  if scriptLowerExponent ≤ d.scientificExponent ∧ d.scientificExponent < scriptUpperExponent
  then
    d.positional []
  else
    d.scientific

/-- Text of a number in scripts. Zero is written without its sign, and numbers that are not
finite have no text.
-/
def script? : Double → Option (List Char)
  | finite negative size => some (signText (negative && size.units != 0) ++ scriptDigits size)
  | _ => none

/-- The double nearest to a power of ten. -/
def tenTo (exponent : Int) : Double := (Decimal.tenTo exponent).toDouble false

/-- The numbers that scripts and artifacts write otherwise: those that are whole but not safe
below `10 ^ 21`, and those from `10 ^ -6` that are less than `10 ^ -5`.
-/
def WrittenApart (x : Double) : Prop :=
  (x.lt (.ofNat (2 ^ 53)) = false ∧ x.lt (tenTo 21) = true)
  ∨ (x.lt (tenTo (-6)) = false ∧ x.lt (tenTo (-5)) = true)

instance (x : Double) : Decidable x.WrittenApart := inferInstanceAs (Decidable (_ ∨ _))

variable {size : Magnitude}

theorem lt_ofQuotient (num den : Nat)
    : (finite false size).lt (ofQuotient false num den) = true
      ↔ size.units < nearestUnits num den := by
  unfold ofQuotient
  split
  · simp [lt, signedUnits]
  next large => exact ⟨fun _ => size.inRange.trans_le (Nat.not_lt.mp large), fun _ => rfl⟩

theorem lt_tenTo (exponent : Int)
    : (finite false size).lt (tenTo exponent) = true
      ↔ size.units < (Decimal.tenTo exponent).nearest := by
  rw [tenTo, Decimal.toDouble_eq_ofQuotient]
  exact lt_ofQuotient _ _

theorem lt_ofNat {n : Nat} (small : n ≤ 2 ^ 53)
    : (finite false size).lt (ofNat n) = true ↔ size.units < n * unitsPerOne := by
  rw [ofNat, lt_ofQuotient, nearestUnits_whole small]

-----------------------------------------------------------------------------------------
-- Bounds
-----------------------------------------------------------------------------------------

/-- The scientific exponent of the shortest decimal of a magnitude. -/
def leadingPlace (size : Magnitude) : Int :=
  (Decimal.shortest .toEven size.units).scientificExponent

/-- A magnitude is below one of the bounds exactly when its exponent is. -/
theorem leadingPlace_lt_iff (nonzero : size.units ≠ 0) {exponent : Int}
    (bound : exponent ∈ [21, 16, -5, -6])
    : leadingPlace size < exponent ↔ size.units < (Decimal.tenTo exponent).nearest := by
  refine Decimal.scientificExponent_lt_iff size.onGrid nonzero ?_
  simp only [List.mem_cons, List.not_mem_nil, or_false] at bound
  rcases bound with rfl | rfl | rfl | rfl <;> decide +kernel

theorem safe_lt_tenTo : 2 ^ 53 * unitsPerOne < (Decimal.tenTo 16).nearest := by
  decide +kernel

theorem tenTo_lt_digits : (Decimal.tenTo 16).nearest < 10 ^ 17 * unitsPerOne := by
  decide +kernel

theorem tenTo_le_one : (Decimal.tenTo (-5)).nearest ≤ unitsPerOne := by
  decide +kernel

theorem tenTo_pos : 0 < (Decimal.tenTo (-6)).nearest := by
  decide +kernel

/-- The magnitudes from `2 ^ 53` on are those that are whole but not safe. -/
theorem large_iff_not_safe
    : 2 ^ 53 * unitsPerOne ≤ size.units
      ↔ unitsPerOne ∣ size.units ∧ ¬ size.units / unitsPerOne < 2 ^ 53 := by
  constructor
  · intro large
    have whole := unitsPerOne_dvd_of_large size.onGrid large
    refine ⟨whole, Nat.not_lt.mpr ?_⟩
    exact (Nat.le_div_iff_mul_le unitsPerOne_pos).mpr large
  · rintro ⟨-, large⟩
    exact (Nat.le_div_iff_mul_le unitsPerOne_pos).mp (Nat.not_lt.mp large)

/-- A magnitude with an exponent below 16 is whole exactly when its shortest decimal has no
digits behind the point.
-/
theorem whole_iff_exponent (nonzero : size.units ≠ 0) (common : leadingPlace size < 16)
    : unitsPerOne ∣ size.units ↔ 0 ≤ (Decimal.shortest .toEven size.units).exponent := by
  constructor
  · rintro ⟨n, units⟩
    rw [Nat.mul_comm] at units
    have below := (leadingPlace_lt_iff nonzero (by decide)).mp common
    have digits : n < 10 ^ 17 := by
      have scaled := below.trans tenTo_lt_digits
      rw [units] at scaled
      exact Nat.lt_of_mul_lt_mul_right scaled
    have grid := size.onGrid
    rw [units] at grid ⊢
    exact Decimal.shortest_whole .toEven grid digits
  · intro whole
    rw [← Decimal.nearest_shortest .toEven size.onGrid, Decimal.nearest_of_whole whole]
    exact unitsPerOne_dvd_nearestUnits _

-----------------------------------------------------------------------------------------
-- Documents and scripts
-----------------------------------------------------------------------------------------

/-- Documents and scripts write a magnitude alike unless one of them writes an exponent and the
other does not, or a point that nothing follows makes the difference.
-/
theorem documentDigits_eq_scriptDigits_iff
    : documentDigits size = scriptDigits size
      ↔ ¬ (16 ≤ leadingPlace size ∧ leadingPlace size < 21) ∧ leadingPlace size ≠ -6
        ∧ (-5 ≤ leadingPlace size ∧ leadingPlace size < 16 →
          (Decimal.shortest .toEven size.units).exponent < 0) := by
  unfold documentDigits scriptDigits leadingPlace
  generalize Decimal.shortest .toEven size.units = d
  dsimp only
  by_cases document
      : documentLowerExponent ≤ d.scientificExponent ∧ d.scientificExponent < documentUpperExponent
  · have common : -5 ≤ d.scientificExponent ∧ d.scientificExponent < 16 := document
    have script
        : scriptLowerExponent ≤ d.scientificExponent
          ∧ d.scientificExponent < scriptUpperExponent := by
      simp only [scriptLowerExponent, scriptUpperExponent]
      omega
    rw [if_pos document, if_pos script]
    rcases lt_or_ge d.exponent 0 with fraction | whole
    · refine iff_of_true (Decimal.positional_of_fraction fraction _ _) ⟨?_, ?_, fun _ => fraction⟩
        <;> omega
    · refine iff_of_false ?_ fun h => Int.not_lt.mpr whole (h.2.2 common)
      exact fun same => absurd ((Decimal.positional_inj_of_whole whole).mp same) nofun
  · have rare : ¬ (-5 ≤ d.scientificExponent ∧ d.scientificExponent < 16) := document
    rw [if_neg document]
    by_cases script
        : scriptLowerExponent ≤ d.scientificExponent
          ∧ d.scientificExponent < scriptUpperExponent
    · have between : -6 ≤ d.scientificExponent ∧ d.scientificExponent < 21 := script
      rw [if_pos script]
      refine iff_of_false ?_ fun h => ?_
      · exact fun same => Decimal.positional_ne_scientific d d List.not_mem_nil same.symm
      · obtain ⟨middle, edge, -⟩ := h
        omega
    · have outside : ¬ (-6 ≤ d.scientificExponent ∧ d.scientificExponent < 21) := script
      rw [if_neg script]
      refine iff_of_true rfl ⟨?_, ?_, fun common => absurd common document⟩ <;> omega

/-- A safe whole number is written out in full by scripts. -/
theorem scriptDigits_whole {n : Nat} (units : size.units = n * unitsPerOne) (small : n < 2 ^ 53)
    : scriptDigits size = natDigits n := by
  have place : scriptLowerExponent ≤ leadingPlace size ∧ leadingPlace size < scriptUpperExponent := by
    rcases Nat.eq_zero_or_pos n with rfl | positive
    · have zero : leadingPlace size = 0 := by
        rw [leadingPlace, units, Nat.zero_mul, Decimal.shortest, if_pos rfl]
        rfl
      rw [zero]
      decide
    · have nonzero : size.units ≠ 0 := units ▸ (Nat.mul_pos positive unitsPerOne_pos).ne'
      have one : unitsPerOne ≤ size.units := units ▸ Nat.le_mul_of_pos_left _ positive
      constructor
      · refine Int.not_lt.mp fun below => ?_
        have less := (leadingPlace_lt_iff nonzero (by decide)).mp below
        have least := Decimal.nearest_tenTo_mono (by decide : (-6 : Int) ≤ -5)
        exact Nat.not_lt.mpr (least.trans (tenTo_le_one.trans one)) less
      · refine (leadingPlace_lt_iff nonzero (by decide)).mpr ?_
        have most := Decimal.nearest_tenTo_mono (by decide : (16 : Int) ≤ 21)
        have below : size.units < 2 ^ 53 * unitsPerOne := by
          rw [units]
          exact Nat.mul_lt_mul_of_pos_right small unitsPerOne_pos
        exact below.trans (safe_lt_tenTo.trans_le most)
  unfold leadingPlace at place
  unfold scriptDigits
  dsimp only
  rw [if_pos place, units, Decimal.positional_whole .toEven small]

/-- Safe whole numbers are not written apart. -/
theorem not_writtenApart_of_safe {n : Nat} (units : size.units = n * unitsPerOne)
    (small : n < 2 ^ 53)
    : ¬ WrittenApart (finite false size) := by
  simp only [WrittenApart, ← Bool.not_eq_true, lt_ofNat le_rfl, lt_tenTo, units]
  have below := Nat.mul_lt_mul_of_pos_right small unitsPerOne_pos
  have least : (Decimal.tenTo (-5)).nearest ≤ 1 * unitsPerOne := by
    rw [Nat.one_mul]
    exact tenTo_le_one
  rintro (⟨large, -⟩ | ⟨small, less⟩)
  · exact large below
  · rcases Nat.eq_zero_or_pos n with rfl | positive
    · rw [Nat.zero_mul] at small
      exact small tenTo_pos
    · exact Nat.not_lt.mpr (least.trans (Nat.mul_le_mul_right _ positive)) less

/-- The two texts of a magnitude that is no safe whole number are alike exactly outside the
ranges that are written apart.
-/
theorem documentDigits_eq_iff
    (other : ¬ (unitsPerOne ∣ size.units ∧ size.units / unitsPerOne < 2 ^ 53))
    : documentDigits size = scriptDigits size ↔ ¬ WrittenApart (finite false size) := by
  have nonzero : size.units ≠ 0 := fun zero => other (by simp [zero])
  have whole : unitsPerOne ∣ size.units ↔ 2 ^ 53 * unitsPerOne ≤ size.units := by
    rw [large_iff_not_safe]
    tauto
  have place {exponent : Int} (bound : exponent ∈ [21, 16, -5, -6]) :=
    leadingPlace_lt_iff nonzero bound
  have small : ¬ 2 ^ 53 * unitsPerOne ≤ size.units → leadingPlace size < 16 := fun small =>
    (place (by decide)).mpr ((Nat.not_le.mp small).trans safe_lt_tenTo)
  have large : 2 ^ 53 * unitsPerOne ≤ size.units → -5 ≤ leadingPlace size := fun large => by
    refine Int.not_lt.mp fun below => Nat.not_le.mpr ((place (by decide)).mp below) ?_
    exact tenTo_le_one.trans ((Nat.le_mul_of_pos_left _ (by decide)).trans large)
  have fraction (common : leadingPlace size < 16)
      : (Decimal.shortest .toEven size.units).exponent < 0
        ↔ ¬ 2 ^ 53 * unitsPerOne ≤ size.units := by
    rw [← whole, whole_iff_exponent nonzero common, Int.not_le]
  have apart
      : WrittenApart (finite false size)
        ↔ (2 ^ 53 * unitsPerOne ≤ size.units ∧ leadingPlace size < 21)
          ∨ (-6 ≤ leadingPlace size ∧ leadingPlace size < -5) := by
    simp only [WrittenApart, ← Bool.not_eq_true, lt_ofNat le_rfl, lt_tenTo, ← place,
      List.mem_cons, true_or, or_true, Int.not_lt, Nat.not_lt]
  rw [documentDigits_eq_scriptDigits_iff, apart]
  generalize (2 ^ 53 * unitsPerOne ≤ size.units) = isLarge at *
  by_cases isLarge <;> grind

end Double

end PerfLedger
