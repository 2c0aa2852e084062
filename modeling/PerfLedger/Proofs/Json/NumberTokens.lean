import Mathlib.Algebra.Order.Ring.Nat
import PerfLedger.Json.Printer
import PerfLedger.Json.Token
import PerfLedger.Proofs.Double.Digits
import PerfLedger.Proofs.Double.ReadingBack

/-! Numbers, by their parts. A number is read up to where it ends, and one that was printed is
the same number: an integer digit by digit, a double through its shortest decimal in whichever
layout it is written.
-/

namespace PerfLedger

-----------------------------------------------------------------------------------------
-- Where numbers end
-----------------------------------------------------------------------------------------

/-- A text that no number in front of it would take in. -/
def EndsNumber (text : List Char) : Prop :=
  ∀ c ∈ text.head?, isDecimalDigit c = false ∧ c ≠ '.' ∧ c ≠ 'e' ∧ c ≠ 'E'

theorem endsNumber_nil : EndsNumber [] := nofun

theorem EndsNumber.noDigitAhead {text : List Char} (h : EndsNumber text)
    : NoDigitAhead text :=
  fun c member => (h c member).1

/-- The integer part of a number: digits, and a leading zero only alone. -/
structure WholePart (digits : List Char) : Prop where
  all : AllDigits digits
  nonempty : digits ≠ []
  lone : digits.head? = some '0' → digits.length = 1

theorem WholePart.natDigits (n : Nat) : WholePart (natDigits n) where
  all := allDigits_natDigits n
  nonempty := natDigits_ne_nil n
  lone := by
    intro front
    rcases Nat.eq_zero_or_pos n with rfl | positive
    · rfl
    · exact absurd rfl (natDigits_head_ne_zero positive '0' front)

/-- Further digits may follow a first digit that is not zero. -/
theorem WholePart.of_head {digits : List Char} (all : AllDigits digits)
    (nonempty : digits ≠ []) (front : ∀ c ∈ digits.head?, c ≠ '0')
    : WholePart digits where
  all := all
  nonempty := nonempty
  lone := fun zero => absurd rfl (front '0' zero)

/-- An integer part passes the test against leading zeros. -/
theorem WholePart.alone {digits more : List Char} {first : Char} (part : WholePart digits)
    (shape : digits = first :: more)
    : (first = '0' && !more.isEmpty) = false := by
  subst shape
  by_cases zero : first = '0'
  · have short : more.length + 1 = 1 := part.lone (by simp [zero])
    have empty : more = [] := List.eq_nil_of_length_eq_zero (by omega)
    simp [empty]
  · simp [zero]

-----------------------------------------------------------------------------------------
-- Numerals
-----------------------------------------------------------------------------------------

/-- The fraction of a number, if it has one. -/
inductive Fraction : Option (List Char) → List Char → Prop where
  | absent : Fraction none []
  | digits {digits : List Char} (all : AllDigits digits) (nonempty : digits ≠ [])
      : Fraction (some digits) ('.' :: digits)

/-- The sign of an exponent, which may be left out. -/
inductive ExponentSign : Bool → List Char → Prop where
  | absent : ExponentSign false []
  | plus : ExponentSign false ['+']
  | minus : ExponentSign true ['-']

/-- The exponent of a number, if it has one. -/
inductive Exponent : Option Int → List Char → Prop where
  | absent : Exponent none []
  | power {letter : Char} {negative : Bool} {sign digits : List Char}
      (marked : letter = 'e' ∨ letter = 'E') (signed : ExponentSign negative sign)
      (all : AllDigits digits) (nonempty : digits ≠ [])
      : Exponent (some (if negative then -(natOfDigits digits : Int) else natOfDigits digits))
          (letter :: (sign ++ digits))

/-- The number that is written by its parts. Only one without a fraction and an exponent can be
an integer.
-/
def numeralValue (negative : Bool) (whole : List Char)
    : Option (List Char) → Option Int → JsonNumber
  | none, none => wholeNumber negative whole
  | fraction, exponent =>
      .real ((Decimal.ofParts whole (fraction.getD []) (exponent.getD 0)).toDouble negative)

/-- A number after its sign. -/
inductive Numeral (negative : Bool) : JsonNumber → List Char → Prop where
  | parts {whole point scale : List Char} {fraction : Option (List Char)} {exponent : Option Int}
      (integer : WholePart whole) (fractional : Fraction fraction point)
      (scaled : Exponent exponent scale)
      : Numeral negative (numeralValue negative whole fraction exponent)
          (whole ++ (point ++ scale))

-----------------------------------------------------------------------------------------
-- Reading numerals
-----------------------------------------------------------------------------------------

/-- After its integer part a number goes on with a point or an exponent, or ends. -/
theorem numberToken_whole (negative : Bool) {whole rest : List Char}
    (part : WholePart whole) (stop : NoDigitAhead rest) (noPoint : ∀ c ∈ rest.head?, c ≠ '.')
    : numberToken negative (whole ++ rest) = exponentToken negative whole none rest := by
  unfold numberToken
  simp only [part.all.takeWhile_append stop, part.all.dropWhile_append stop]
  cases shape : whole with
  | nil => exact absurd shape part.nonempty
  | cons first more =>
      simp only [part.alone shape, Bool.false_eq_true, ↓reduceIte]
      split
      next point => exact absurd rfl (noPoint '.' (by simp))
      next => rfl

/-- Digits after a point are the fraction of a number. -/
theorem numberToken_point (negative : Bool) {whole fraction rest : List Char}
    (part : WholePart whole) (digits : AllDigits fraction) (nonempty : fraction ≠ [])
    (stop : NoDigitAhead rest)
    : numberToken negative (whole ++ '.' :: (fraction ++ rest))
      = exponentToken negative whole (.some fraction) rest := by
  have pointAhead := noDigitAhead_point (fraction ++ rest)
  unfold numberToken
  simp only [part.all.takeWhile_append pointAhead, part.all.dropWhile_append pointAhead,
    digits.takeWhile_append stop, digits.dropWhile_append stop]
  cases shape : whole with
  | nil => exact absurd shape part.nonempty
  | cons first more =>
      simp only [part.alone shape, Bool.false_eq_true, ↓reduceIte, List.isEmpty_iff, nonempty]

/-- A number that is not continued has no exponent. -/
theorem exponentToken_end (negative : Bool) (whole : List Char)
    (fraction : Option (List Char)) {rest : List Char} (stop : EndsNumber rest)
    : exponentToken negative whole fraction rest
      = exponentToken.plain negative whole fraction rest := by
  cases rest with
  | nil => rfl
  | cons c rest =>
      obtain ⟨_, _, lower, upper⟩ := stop c rfl
      simp [exponentToken, lower, upper]

theorem exponentPart?_power {letter : Char} {negative : Bool} {sign digits rest : List Char}
    (marked : letter = 'e' ∨ letter = 'E') (signed : ExponentSign negative sign)
    (all : AllDigits digits) (nonempty : digits ≠ []) (stop : NoDigitAhead rest)
    : exponentPart? (letter :: (sign ++ digits ++ rest))
      = some (if negative then -(natOfDigits digits : Int) else natOfDigits digits, rest) := by
  have written : (digits ++ rest).takeWhile isDecimalDigit = digits := all.takeWhile_append stop
  have after : (digits ++ rest).dropWhile isDecimalDigit = rest := all.dropWhile_append stop
  have letters : (letter = 'e' || letter = 'E') = true := by simpa using marked
  obtain ⟨first, more, rfl⟩ := List.exists_cons_of_ne_nil nonempty
  have digit : isDecimalDigit first = true := all first List.mem_cons_self
  have minus : first ≠ '-' := by
    rintro rfl
    contradiction
  have plus : first ≠ '+' := by
    rintro rfl
    contradiction
  unfold exponentPart?
  cases signed <;> simp_all

namespace Exponent

variable {exponent : Option Int} {scale rest : List Char}

/-- A number ends with its exponent. -/
theorem exponentToken_eq (h : Exponent exponent scale) (negative : Bool) (whole : List Char)
    (fraction : Option (List Char)) (stop : EndsNumber rest)
    : exponentToken negative whole fraction (scale ++ rest)
      = (numberValue (numeralValue negative whole fraction exponent), rest) := by
  cases h with
  | absent =>
      rw [List.nil_append, exponentToken_end _ _ _ stop]
      cases fraction <;> rfl
  | @power letter _ _ _ marked signed all nonempty =>
      have letters : (letter = 'e' || letter = 'E') = true := by simpa using marked
      have read := exponentPart?_power marked signed all nonempty stop.noDigitAhead
      simp only [exponentToken, List.cons_append, letters, ↓reduceIte, read]
      cases fraction <;> rfl

/-- An exponent is no more of the digits in front of it. -/
theorem head (h : Exponent exponent scale) (stop : EndsNumber rest)
    : ∀ c ∈ (scale ++ rest).head?, isDecimalDigit c = false ∧ c ≠ '.' := by
  intro c front
  cases h with
  | absent => exact ⟨(stop c front).1, (stop c front).2.1⟩
  | power marked =>
      obtain rfl := Option.some.inj front
      rcases marked with rfl | rfl <;> decide

end Exponent

/-- A number is read up to where it ends. -/
theorem Numeral.numberToken_eq {negative : Bool} {value : JsonNumber} {digits : List Char}
    (h : Numeral negative value digits) {rest : List Char} (stop : EndsNumber rest)
    : numberToken negative (digits ++ rest) = (numberValue value, rest) := by
  obtain ⟨integer, fractional, scaled⟩ := h
  have digitsEnd := fun c front => (scaled.head stop c front).1
  rw [List.append_assoc, List.append_assoc]
  cases fractional with
  | absent =>
      refine Eq.trans ?_ (scaled.exponentToken_eq negative _ none stop)
      exact numberToken_whole negative integer digitsEnd fun c front => (scaled.head stop c front).2
  | digits all nonempty =>
      refine Eq.trans ?_ (scaled.exponentToken_eq negative _ (some _) stop)
      exact numberToken_point negative integer all nonempty digitsEnd

-----------------------------------------------------------------------------------------
-- Integers
-----------------------------------------------------------------------------------------

/-- The integers that stay integers in a document. -/
def JsonNumber.InRange (value : Int) : Prop :=
  JsonNumber.leastInt ≤ value ∧ value ≤ JsonNumber.greatestInt

/-- The digits of an integer in range stand for that integer. -/
theorem wholeNumber_natDigits {value : Int} (range : JsonNumber.InRange value)
    : wholeNumber (value < 0) (natDigits value.natAbs) = .int value := by
  obtain ⟨least, greatest⟩ := range
  unfold wholeNumber
  by_cases sign : value < 0
  · have nonzero : value.natAbs ≠ 0 := by omega
    have signed : -(value.natAbs : Int) = value := by omega
    generalize value.natAbs = n at *
    simp [sign, nonzero, signed, Int.not_lt.mpr least, Int.not_lt.mpr greatest]
  · have signed : (value.natAbs : Int) = value := by omega
    generalize value.natAbs = n at *
    simp [sign, signed, Int.not_lt.mpr least, Int.not_lt.mpr greatest]

/-- Digits without a fraction and an exponent are a number. -/
theorem WholePart.numeral {whole : List Char} (part : WholePart whole) (negative : Bool)
    : Numeral negative (wholeNumber negative whole) whole := by
  simpa [numeralValue] using @Numeral.parts negative _ _ _ _ _ part .absent .absent

/-- The digits of an integer are a number, after its sign. -/
theorem numeral_natDigits {value : Int} (range : JsonNumber.InRange value)
    : Numeral (value < 0) (.int value) (natDigits value.natAbs) := by
  have numeral := (WholePart.natDigits value.natAbs).numeral (value < 0)
  rwa [wholeNumber_natDigits range] at numeral

-----------------------------------------------------------------------------------------
-- Doubles
-----------------------------------------------------------------------------------------

/-- Digits with a fraction are a number: the double of all of them. -/
theorem WholePart.numeral_point {whole fraction : List Char} (part : WholePart whole)
    (digits : AllDigits fraction) (nonempty : fraction ≠ []) (negative : Bool)
    : Numeral negative (.real ((Decimal.ofParts whole fraction 0).toDouble negative))
        (whole ++ '.' :: fraction) := by
  have fractional : Fraction (some fraction) ('.' :: fraction) := .digits digits nonempty
  simpa [numeralValue] using @Numeral.parts negative _ _ _ _ _ part fractional .absent

/-- An exponent that is written with its sign. -/
theorem exponent_signed (exponent : Int)
    : Exponent (some exponent)
        ('e' :: (if exponent < 0 then '-' else '+') :: natDigits exponent.natAbs) := by
  have power {negative : Bool} {sign : List Char} (signed : ExponentSign negative sign) :=
    Exponent.power (.inl rfl) signed (allDigits_natDigits exponent.natAbs) (natDigits_ne_nil _)
  rw [natOfDigits_natDigits] at power
  by_cases sign : exponent < 0
  · have value : -(exponent.natAbs : Int) = exponent := by omega
    simpa only [sign, ↓reduceIte, value, List.singleton_append] using power .minus
  · have value : (exponent.natAbs : Int) = exponent := by omega
    simpa only [sign, ↓reduceIte, Bool.false_eq_true, value, List.singleton_append]
      using power .plus

namespace Decimal

/-- A decimal between whose digits the point falls is read as itself. -/
theorem ofParts_split {d : Decimal} (sign : d.exponent < 0)
    (inside : d.exponent.natAbs < (natDigits d.digits).length)
    : ofParts ((natDigits d.digits).take ((natDigits d.digits).length - d.exponent.natAbs))
        ((natDigits d.digits).drop ((natDigits d.digits).length - d.exponent.natAbs)) 0
      = d := by
  have places : (0 : Int) - d.exponent.natAbs = d.exponent := by omega
  have count
      : ((natDigits d.digits).drop ((natDigits d.digits).length - d.exponent.natAbs)).length
        = d.exponent.natAbs := by
    rw [List.length_drop]
    omega
  simp only [ofParts, List.take_append_drop, natOfDigits_natDigits, count, places]

/-- A decimal whose digits all stand behind the point is read as itself. -/
theorem ofParts_small {d : Decimal} (sign : d.exponent < 0)
    (outside : (natDigits d.digits).length ≤ d.exponent.natAbs)
    : ofParts ['0']
        (List.replicate (d.exponent.natAbs - (natDigits d.digits).length) '0'
          ++ natDigits d.digits) 0
      = d := by
  have places : (0 : Int) - d.exponent.natAbs = d.exponent := by omega
  have count
      : d.exponent.natAbs - (natDigits d.digits).length + (natDigits d.digits).length
        = d.exponent.natAbs := by
    omega
  have digits := natOfDigits_zeros_append
    (d.exponent.natAbs - (natDigits d.digits).length + 1) (natDigits d.digits)
  rw [List.replicate_succ, List.cons_append, natOfDigits_natDigits] at digits
  simp only [ofParts, List.cons_append, List.nil_append, digits, List.length_append,
    List.length_replicate, count, places]

/-- A whole decimal that is written out to its point is read as the same double. -/
theorem toDouble_ofParts_whole (negative : Bool) {d : Decimal} (sign : ¬ d.exponent < 0)
    : (ofParts (natDigits d.digits ++ List.replicate d.exponent.natAbs '0') ['0'] 0).toDouble
        negative
      = d.toDouble negative := by
  have zeros
      : natDigits d.digits ++ List.replicate d.exponent.natAbs '0' ++ ['0']
        = natDigits d.digits ++ List.replicate (d.exponent.natAbs + 1) '0' := by
    rw [List.append_assoc, List.replicate_succ']
  have exponent : (0 : Int) - (1 : Nat) + (d.exponent.natAbs + 1 : Nat) = d.exponent := by
    omega
  simp only [ofParts, zeros, natOfDigits_append_zeros, natOfDigits_natDigits,
    List.length_singleton]
  rw [toDouble_zeros, exponent]

/-- The digits in front of a point do not start with a superfluous zero. -/
theorem wholePart_take {d : Decimal}
    (inside : d.exponent.natAbs < (natDigits d.digits).length) (positive : 0 < d.exponent.natAbs)
    : WholePart
        ((natDigits d.digits).take ((natDigits d.digits).length - d.exponent.natAbs)) := by
  have positive : 0 < d.digits := by
    refine Nat.pos_of_ne_zero fun zero => ?_
    have short : (natDigits d.digits).length = 1 := by rw [zero]; rfl
    omega
  cases shape : natDigits d.digits with
  | nil => exact absurd shape (natDigits_ne_nil _)
  | cons first more =>
      rw [shape] at inside
      have front := natDigits_head_ne_zero positive
      have all := allDigits_natDigits d.digits
      rw [shape] at front all
      obtain ⟨kept, size⟩ : ∃ kept, (first :: more).length - d.exponent.natAbs = kept + 1 :=
        ⟨(first :: more).length - d.exponent.natAbs - 1, by omega⟩
      rw [size, List.take_succ_cons]
      refine .of_head (all.sublist ?_) (by simp) (by simpa using front)
      exact (List.take_sublist _ _).cons_cons first

/-- Digits with zeros behind them are a whole part. -/
theorem wholePart_zeros {d : Decimal} (normal : d.digits = 0 → d.exponent = 0)
    : WholePart (natDigits d.digits ++ List.replicate d.exponent.natAbs '0') := by
  rcases Nat.eq_zero_or_pos d.digits with zero | positive
  · rw [zero, normal zero]
    exact .natDigits 0
  · have all := (allDigits_natDigits d.digits).append
      (allDigits_replicate_zero d.exponent.natAbs)
    refine .of_head all (by simp) ?_
    have front := natDigits_head_ne_zero positive
    cases shape : natDigits d.digits with
    | nil => exact absurd shape (natDigits_ne_nil _)
    | cons first more => simpa [shape] using front

/-- A decimal that is written without an exponent is its double. -/
theorem numeral_positional (negative : Bool) {d : Decimal} (normal : d.digits = 0 → d.exponent = 0)
    : Numeral negative (.real (d.toDouble negative)) (d.positional ['.', '0']) := by
  have all := allDigits_natDigits d.digits
  unfold positional
  by_cases sign : d.exponent < 0
  · by_cases inside : d.exponent.natAbs < (natDigits d.digits).length
    · have nonempty
          : (natDigits d.digits).drop ((natDigits d.digits).length - d.exponent.natAbs)
            ≠ [] := by
        rw [Ne, List.drop_eq_nil_iff]
        omega
      have numeral := (wholePart_take inside (by omega)).numeral_point
        (all.sublist (List.drop_sublist _ _)) nonempty negative
      rw [ofParts_split sign inside] at numeral
      simpa only [if_pos sign, if_pos inside] using numeral
    · have zero : WholePart ['0'] := .natDigits 0
      have digits := (allDigits_replicate_zero
        (d.exponent.natAbs - (natDigits d.digits).length)).append all
      have numeral := zero.numeral_point digits (by simp) negative
      rw [ofParts_small sign (Nat.not_lt.mp inside)] at numeral
      simp only [if_pos sign, if_neg inside]
      exact numeral
  · have numeral := (wholePart_zeros normal).numeral_point (allDigits_replicate_zero 1) (by simp)
      negative
    rw [List.replicate_one, toDouble_ofParts_whole negative sign] at numeral
    simpa only [if_neg sign] using numeral

/-- A decimal that is written with an exponent is its double. -/
theorem numeral_scientific (negative : Bool) (d : Decimal)
    : Numeral negative (.real (d.toDouble negative)) d.scientific := by
  have all := allDigits_natDigits d.digits
  have digits := natOfDigits_natDigits d.digits
  unfold scientific scientificExponent
  match shape : natDigits d.digits with
  | [] => exact absurd shape (natDigits_ne_nil _)
  | [first] =>
      rw [shape] at all digits
      have part : WholePart [first] := ⟨all, by simp, fun _ => rfl⟩
      have read : ofParts [first] [] ((1 : Nat) - 1 + d.exponent) = d := by
        simp [ofParts, digits]
      have numeral := @Numeral.parts negative _ _ _ _ _ part .absent
        (exponent_signed ((1 : Nat) - 1 + d.exponent))
      simp only [numeralValue, Option.getD_none, Option.getD_some, read] at numeral
      exact numeral
  | first :: second :: more =>
      rw [shape] at all digits
      have part : WholePart [first] := ⟨all.sublist (by simp), by simp, fun _ => rfl⟩
      have fraction : AllDigits (second :: more) := all.sublist (by simp)
      have read
          : ofParts [first] (second :: more)
              (((first :: second :: more).length : Nat) - 1 + d.exponent)
            = d := by
        have exponent
            : ((more.length + 1 + 1 : Nat) : Int) - 1 + d.exponent - (more.length + 1 : Nat)
              = d.exponent := by
          omega
        simp only [ofParts, List.singleton_append, digits, List.length_cons, exponent]
      have numeral := @Numeral.parts negative _ _ _ _ _ part (.digits fraction (by simp))
        (exponent_signed (((first :: second :: more).length : Nat) - 1 + d.exponent))
      simp only [numeralValue, Option.getD_some, read] at numeral
      exact numeral

end Decimal

/-- The text of a double in a document is that double. -/
theorem numeral_documentDigits (negative : Bool) (size : Magnitude)
    : Numeral negative (.real (.finite negative size)) (Double.documentDigits size) := by
  have value := Decimal.toDouble_shortest negative size
  unfold Double.documentDigits
  rw [← value]
  dsimp only
  split
  · exact Decimal.numeral_positional negative (Decimal.shortest_normal size)
  · exact Decimal.numeral_scientific negative _

end PerfLedger
