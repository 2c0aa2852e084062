import PerfLedger.Proofs.Double.ScriptDigits
import PerfLedger.Proofs.Json.Layout
import PerfLedger.Proofs.Ledger.Unsigned

/-! Numbers in scripts. They are read as the same doubles, but whole numbers without a point
come back as integers while these have 64 bits.
-/

namespace PerfLedger

/-- A number as scripts write it; doubles that are not finite are written as null. -/
def JsonNumber.script : JsonNumber → List Char
  | int value => intDigits value
  | real value => value.script?.getD "null".toList

-----------------------------------------------------------------------------------------
-- Reading
-----------------------------------------------------------------------------------------

namespace Decimal

/-- A whole number that is written without a point is a number without a fraction. -/
theorem numeral_bare {d : Decimal} (normal : d.digits = 0 → d.exponent = 0)
    (whole : 0 ≤ d.exponent)
    : Numeral false (wholeNumber false (d.positional [])) (d.positional []) := by
  have text
      : d.positional [] = natDigits d.digits ++ List.replicate d.exponent.natAbs '0' := by
    simp only [positional, if_neg (Int.not_lt.mpr whole), List.append_nil]
  rw [text]
  exact (wholePart_zeros normal).numeral false

/-- The digits of a whole number without a point. -/
theorem natOfDigits_bare {d : Decimal} (whole : 0 ≤ d.exponent)
    : natOfDigits (d.positional []) = d.digits * 10 ^ d.exponent.natAbs := by
  simp only [positional, if_neg (Int.not_lt.mpr whole), List.append_nil, natOfDigits_append_zeros,
    natOfDigits_natDigits]

/-- A whole number without a point writes the digits of that number. -/
theorem natDigits_bare {d : Decimal} (normal : d.digits = 0 → d.exponent = 0)
    (whole : 0 ≤ d.exponent)
    : natDigits (d.digits * 10 ^ d.exponent.natAbs) = d.positional [] := by
  simp only [positional, if_neg (Int.not_lt.mpr whole), List.append_nil]
  rcases Nat.eq_zero_or_pos d.digits with zero | positive
  · rw [zero, normal zero]
    rfl
  · exact natDigits_mul_ten_pow positive _

end Decimal

/-- A whole number without a sign: an integer where it has 64 bits, else a double. -/
theorem wholeNumber_eq (digits : List Char)
    : wholeNumber false digits
      = if JsonNumber.greatestInt < natOfDigits digits then .real (.ofNat (natOfDigits digits))
        else .int (natOfDigits digits) := by
  have double (n : Nat) : (⟨n, 0⟩ : Decimal).toDouble false = .ofNat n := by
    rw [Decimal.toDouble_eq_ofQuotient, Decimal.quotient, if_neg (lt_irrefl _), Double.ofNat]
    dsimp only
    rw [Int.natAbs_zero, Nat.pow_zero, Nat.mul_one]
  have least : ¬ ((natOfDigits digits : Nat) : Int) < JsonNumber.leastInt := by
    simp only [JsonNumber.leastInt]
    omega
  simp [wholeNumber, least, double]

namespace Double

/-- The number that the text of a magnitude in a script is read as. -/
def reread (size : Magnitude) : JsonNumber :=
  let d := Decimal.shortest .toEven size.units
  if (scriptLowerExponent ≤ d.scientificExponent ∧ d.scientificExponent < scriptUpperExponent)
    ∧ 0 ≤ d.exponent
  then
    wholeNumber false (d.positional [])
  else
    .real (.finite false size)

variable {size : Magnitude}

/-- A number of which the shortest decimal is whole is the double nearest to it. -/
theorem ofNat_shortest (whole : 0 ≤ (Decimal.shortest .toEven size.units).exponent)
    : ofNat (natOfDigits ((Decimal.shortest .toEven size.units).positional []))
      = .finite false size := by
  rw [Decimal.natOfDigits_bare whole, ofNat]
  refine ofQuotient_eq_finite _ ?_
  rw [← Decimal.nearest_of_whole whole, Decimal.nearest_shortest _ size.onGrid]

/-- What the text of a magnitude is read as: an integer that is nearest to it and has its text,
or the magnitude itself.
-/
theorem reread_cases (size : Magnitude)
    : (∃ n : Nat, reread size = .int n ∧ (n : Int) ≤ JsonNumber.greatestInt
        ∧ ofNat n = .finite false size ∧ natDigits n = scriptDigits size)
      ∨ reread size = .real (.finite false size) := by
  unfold reread scriptDigits
  dsimp only
  split
  next bare =>
    obtain ⟨place, whole⟩ := bare
    have number := ofNat_shortest whole
    have digits := Decimal.natDigits_bare (Decimal.shortest_normal size) whole
    rw [← Decimal.natOfDigits_bare whole] at digits
    rw [wholeNumber_eq, if_pos place]
    generalize natOfDigits ((Decimal.shortest .toEven size.units).positional []) = n at *
    split
    · exact .inr (congrArg _ number)
    next small => exact .inl ⟨n, rfl, Int.not_lt.mp small, number, digits⟩
  next => exact .inr rfl

/-- The text of a magnitude in a script is one number. -/
theorem numeral_scriptDigits (size : Magnitude)
    : Numeral false (reread size) (scriptDigits size) := by
  have value := Decimal.toDouble_shortest false size
  have normal := Decimal.shortest_normal size
  unfold scriptDigits reread
  rw [← value]
  dsimp only
  by_cases place
      : scriptLowerExponent ≤ (Decimal.shortest .toEven size.units).scientificExponent
        ∧ (Decimal.shortest .toEven size.units).scientificExponent < scriptUpperExponent
  · rw [if_pos place]
    rcases lt_or_ge (Decimal.shortest .toEven size.units).exponent 0 with fraction | whole
    · rw [if_neg fun bare => Int.not_lt.mpr bare.2 fraction,
        Decimal.positional_of_fraction fraction [] ['.', '0']]
      exact Decimal.numeral_positional false normal
    · rw [if_pos ⟨place, whole⟩]
      exact Decimal.numeral_bare normal whole
  · rw [if_neg place, if_neg fun bare => place bare.1]
    exact Decimal.numeral_scientific false _

theorem lexeme_scriptDigits (size : Magnitude)
    : Lexeme (.number (reread size)) (scriptDigits size) := by
  have kept : numberValue (reread size) = .number (reread size) := by
    rcases reread_cases size with ⟨n, read, -⟩ | read <;> rw [read] <;> rfl
  exact kept ▸ Lexeme.number (numeral_scriptDigits size)

theorem toDouble_reread (size : Magnitude) : (reread size).toDouble = .finite false size := by
  rcases reread_cases size with ⟨n, read, -, number, -⟩ | read
  · have positive : ¬ (n : Int) < 0 := Int.not_lt.mpr (Int.natCast_nonneg n)
    rw [read, ← number, JsonNumber.toDouble, ofInt, ofNat, decide_eq_false positive,
      Int.natAbs_natCast]
  · rw [read]
    rfl

/-- A number has the same text in a script once it has been read. -/
theorem script_reread (size : Magnitude) : (reread size).script = scriptDigits size := by
  rcases reread_cases size with ⟨n, read, -, -, digits⟩ | read
  · rw [read, ← digits]
    rfl
  · rw [read]
    rfl

/-- The number that a double in a script is read as. -/
def scriptNumber : Double → JsonNumber
  | finite negative size =>
      if negative && size.units != 0 then .real (.finite negative size) else reread size
  | other => .real other

/-- A double has the same text in a script once it has been read. -/
theorem script_scriptNumber (x : Double)
    : x.scriptNumber.script = (JsonNumber.real x).script := by
  cases x with
  | nan => rfl
  | infinite => rfl
  | finite negative size =>
      rw [scriptNumber]
      split
      · rfl
      next bare =>
        rw [script_reread, JsonNumber.script, script?, Bool.eq_false_iff.mpr bare]
        rfl

/-- A double that is negative only as a zero. -/
theorem scriptNumber_eq {negative : Bool} (zero : negative = true → size.units = 0)
    : scriptNumber (.finite negative size) = reread size := by
  rw [scriptNumber, if_neg]
  cases negative with
  | false => simp
  | true => simp [zero rfl]

end Double

-----------------------------------------------------------------------------------------
-- Characters
-----------------------------------------------------------------------------------------

/-- The characters of numbers. -/
def isNumberChar (c : Char) : Bool := isDecimalDigit c || c ∈ ['.', '-', '+', 'e']

theorem unbroken_of_numberChars {text : List Char} (h : ∀ c ∈ text, isNumberChar c = true)
    : Unbroken text := by
  intro c member
  have known := h c member
  constructor <;> rintro rfl <;> contradiction

theorem AllDigits.numberChars {text : List Char} (h : AllDigits text)
    : ∀ c ∈ text, isNumberChar c = true := by
  intro c member
  rw [isNumberChar, h c member, Bool.true_or]

theorem numberChars_natDigits (n : Nat) : ∀ c ∈ natDigits n, isNumberChar c = true :=
  (allDigits_natDigits n).numberChars

namespace Decimal

theorem numberChars_positional (d : Decimal) {tail : List Char}
    (plain : ∀ c ∈ tail, isNumberChar c = true)
    : ∀ c ∈ d.positional tail, isNumberChar c = true := by
  have digits := allDigits_natDigits d.digits
  have zeros (count : Nat) := (allDigits_replicate_zero count).numberChars
  unfold positional
  dsimp only
  split
  · split
    · refine List.forall_mem_append.mpr ⟨?_, List.forall_mem_cons.mpr ⟨rfl, ?_⟩⟩
      · exact (digits.sublist (List.take_sublist _ _)).numberChars
      · exact (digits.sublist (List.drop_sublist _ _)).numberChars
    · refine List.forall_mem_cons.mpr ⟨rfl, List.forall_mem_cons.mpr ⟨rfl, ?_⟩⟩
      exact List.forall_mem_append.mpr ⟨zeros _, digits.numberChars⟩
  · refine List.forall_mem_append.mpr ⟨?_, plain⟩
    exact List.forall_mem_append.mpr ⟨digits.numberChars, zeros _⟩

theorem numberChars_scientific (d : Decimal) : ∀ c ∈ d.scientific, isNumberChar c = true := by
  have digits := numberChars_natDigits d.digits
  unfold scientific
  dsimp only
  refine List.forall_mem_append.mpr ⟨?_, ?_⟩
  · split
    next first second rest shape =>
      rw [shape] at digits
      obtain ⟨front, back⟩ := List.forall_mem_cons.mp digits
      exact List.forall_mem_cons.mpr ⟨front, List.forall_mem_cons.mpr ⟨rfl, back⟩⟩
    next => exact digits
  · refine List.forall_mem_cons.mpr ⟨rfl, List.forall_mem_cons.mpr ⟨?_, ?_⟩⟩
    · split <;> rfl
    · exact numberChars_natDigits _

theorem numberChars_signText (negative : Bool)
    : ∀ c ∈ signText negative, isNumberChar c = true := by
  cases negative
  · exact List.forall_mem_nil _
  · exact List.forall_mem_singleton.mpr rfl

/-- Neither layout of a decimal can be broken. -/
theorem unbroken_layouts (negative : Bool) (d : Decimal) {tail : List Char}
    (plain : ∀ c ∈ tail, isNumberChar c = true) (condition : Prop) [Decidable condition]
    : Unbroken (signText negative ++ if condition then d.positional tail else d.scientific) := by
  refine unbroken_of_numberChars (List.forall_mem_append.mpr ⟨numberChars_signText negative, ?_⟩)
  split
  · exact numberChars_positional d plain
  · exact numberChars_scientific d

end Decimal

theorem numberChars_intDigits (n : Int) : ∀ c ∈ intDigits n, isNumberChar c = true := by
  unfold intDigits
  split
  · exact List.forall_mem_cons.mpr ⟨rfl, numberChars_natDigits _⟩
  · exact numberChars_natDigits _

theorem unbroken_null : Unbroken "null".toList := by
  have chars : "null".toList = ['n', 'u', 'l', 'l'] := rfl
  rw [chars]
  simp [Unbroken]

namespace JsonNumber

/-- Neither documents nor scripts break a number. -/
theorem unbroken_print (x : JsonNumber) : Unbroken x.print := by
  cases x with
  | int n => exact unbroken_of_numberChars (numberChars_intDigits n)
  | real value =>
      cases value with
      | nan => exact unbroken_null
      | infinite => exact unbroken_null
      | finite =>
          have point : ∀ c ∈ ['.', '0'], isNumberChar c = true :=
            List.forall_mem_cons.mpr ⟨rfl, List.forall_mem_singleton.mpr rfl⟩
          exact Decimal.unbroken_layouts _ _ point _

theorem unbroken_script (x : JsonNumber) : Unbroken x.script := by
  cases x with
  | int n => exact unbroken_of_numberChars (numberChars_intDigits n)
  | real value =>
      cases value with
      | nan => exact unbroken_null
      | infinite => exact unbroken_null
      | finite => exact Decimal.unbroken_layouts _ _ (List.forall_mem_nil _) _

end JsonNumber

-----------------------------------------------------------------------------------------
-- Documents and scripts
-----------------------------------------------------------------------------------------

/-- The text of a value that is not below zero. -/
theorem Record.print_valueNumber (size : Magnitude)
    : (valueNumber (.finite false size)).print
      = if unitsPerOne ∣ size.units ∧ size.units / unitsPerOne < 2 ^ 53 then
          natDigits (size.units / unitsPerOne)
        else
          Double.documentDigits size := by
  unfold valueNumber Double.toInt?
  by_cases whole : size.units % unitsPerOne = 0
  · have divides := Nat.dvd_of_mod_eq_zero whole
    simp only [if_pos whole, Bool.false_eq_true, if_false, Int.natAbs_natCast, divides, true_and]
    by_cases safe : size.units / unitsPerOne < 2 ^ 53
    · have below : size.units / unitsPerOne ≤ greatestSafeInt := Nat.le_pred_of_lt safe
      rw [if_pos safe, if_pos below]
      rfl
    · have above : ¬ size.units / unitsPerOne ≤ greatestSafeInt := fun below =>
        safe (Nat.lt_of_le_pred (by decide) below)
      rw [if_neg safe, if_neg above]
      rfl
  · have divides : ¬ unitsPerOne ∣ size.units := fun divides =>
      whole (Nat.mod_eq_zero_of_dvd divides)
    simp only [if_neg whole, divides, false_and, if_false]
    rfl

/-- A zero is written apart or not whatever its sign. -/
theorem Double.writtenApart_sign {negative : Bool} {size : Magnitude}
    (zero : negative = true → size.units = 0)
    : WrittenApart (.finite negative size) ↔ WrittenApart (.finite false size) := by
  have same (bound : Double) : (finite negative size).lt bound = (finite false size).lt bound := by
    have units : signedUnits negative size = signedUnits false size := signedUnits_eq_units zero
    cases bound with
    | nan => rfl
    | infinite => rfl
    | finite => simp only [lt, units]
  simp only [WrittenApart, same]

/-- A value that is not below zero has the text in an artifact that it has in a script, unless
it is one that is written apart.
-/
theorem Record.print_eq_script_iff {negative : Bool} {size : Magnitude}
    (zero : negative = true → size.units = 0)
    : (valueNumber (.finite negative size)).print = (JsonNumber.real (.finite negative size)).script
      ↔ ¬ (Double.finite negative size).WrittenApart := by
  have script : (JsonNumber.real (.finite negative size)).script = Double.scriptDigits size := by
    rw [← Double.script_scriptNumber, Double.scriptNumber_eq zero, Double.script_reread]
  rw [script, Double.writtenApart_sign zero, valueNumber_sign zero, print_valueNumber]
  split
  next safe =>
    obtain ⟨⟨n, units⟩, small⟩ := safe
    rw [units, Nat.mul_div_cancel_left _ unitsPerOne_pos] at small ⊢
    rw [Nat.mul_comm] at units
    refine iff_of_true (Double.scriptDigits_whole units small).symm ?_
    exact Double.not_writtenApart_of_safe units small
  next other => exact Double.documentDigits_eq_iff other

example : (Record.valueNumber (.ofNat (10 ^ 16))).print = "1e+16".toList := by decide +kernel

example : (JsonNumber.real (.ofNat (10 ^ 16))).script = "10000000000000000".toList := by
  decide +kernel

end PerfLedger
