import Mathlib.Algebra.Order.Ring.Nat
import PerfLedger.Double.Layout

/-! Decimal digits and the number they write. A number that is written and read again is the
same, also with zeros in front, and zeros behind it are a power of ten.
-/

namespace PerfLedger

/-- All characters are decimal digits. -/
def AllDigits (text : List Char) : Prop := ∀ c ∈ text, isDecimalDigit c = true

/-- A text that no run of digits in front of it would take in. -/
def NoDigitAhead (text : List Char) : Prop := ∀ c ∈ text.head?, isDecimalDigit c = false

theorem noDigitAhead_nil : NoDigitAhead [] := nofun

theorem noDigitAhead_point (rest : List Char) : NoDigitAhead ('.' :: rest) := by
  intro c front
  obtain rfl := Option.some.inj front
  rfl

/-- The digits of the model are the ASCII digits of the library. -/
theorem isDecimalDigit_eq (c : Char) : isDecimalDigit c = c.isDigit := rfl

theorem AllDigits.append {left right : List Char} (hl : AllDigits left)
    (hr : AllDigits right)
    : AllDigits (left ++ right) := by
  intro c member
  exact (List.mem_append.mp member).elim (hl c) (hr c)

theorem AllDigits.sublist {part whole : List Char} (h : AllDigits whole)
    (inside : part.Sublist whole)
    : AllDigits part :=
  fun c member => h c (inside.subset member)

theorem allDigits_replicate_zero (count : Nat) : AllDigits (List.replicate count '0') := by
  intro c member
  rw [List.eq_of_mem_replicate member]
  rfl

theorem AllDigits.takeWhile_append {digits rest : List Char} (h : AllDigits digits)
    (stop : NoDigitAhead rest)
    : (digits ++ rest).takeWhile isDecimalDigit = digits := by
  rw [List.takeWhile_append_of_pos h]
  cases rest with
  | nil => simp
  | cons c rest => simp [stop c rfl]

theorem AllDigits.dropWhile_append {digits rest : List Char} (h : AllDigits digits)
    (stop : NoDigitAhead rest)
    : (digits ++ rest).dropWhile isDecimalDigit = rest := by
  rw [List.dropWhile_append_of_pos h]
  cases rest with
  | nil => rfl
  | cons c rest => simp [stop c rfl]

theorem allDigits_natDigits (n : Nat) : AllDigits (natDigits n) := by
  intro c member
  rw [isDecimalDigit_eq]
  exact Nat.isDigit_of_mem_toDigits (by decide) (by decide) member

@[simp]
theorem natDigits_ne_nil (n : Nat) : natDigits n ≠ [] := Nat.toDigits_ne_nil

/-- No number but zero is written with a zero in front, by induction on its digits. -/
theorem natDigits_head_ne_zero {n : Nat} (positive : 0 < n)
    : ∀ c ∈ (natDigits n).head?, c ≠ '0' := by
  induction n using Nat.strong_induction_on with
  | _ n ih =>
      unfold natDigits at ih ⊢
      rw [Nat.toDigits_eq_if (by decide)]
      split
      next =>
        intro c member
        obtain rfl := Option.some.inj member
        simpa using Nat.ne_of_gt positive
      next =>
        have front := ih (n / 10) (by omega) (by omega)
        cases digits : Nat.toDigits 10 (n / 10) with
        | nil => exact absurd digits Nat.toDigits_ne_nil
        | cons first more => simpa [digits] using front

theorem natOfDigits_eq (digits : List Char)
    : natOfDigits digits = Nat.ofDigitChars 10 digits 0 := by
  unfold natOfDigits Nat.ofDigitChars
  simp only [Nat.mul_comm 10]

@[simp]
theorem natOfDigits_natDigits (n : Nat) : natOfDigits (natDigits n) = n := by
  rw [natOfDigits_eq]
  exact Nat.ofDigitChars_ten_toDigits

theorem natOfDigits_zeros_append (count : Nat) (digits : List Char)
    : natOfDigits (List.replicate count '0' ++ digits) = natOfDigits digits := by
  simp only [natOfDigits_eq, Nat.ofDigitChars_append, Nat.ofDigitChars_replicate_zero,
    Nat.mul_zero]

/-- Zeros behind digits multiply the number by a power of ten. -/
theorem natOfDigits_append_zeros (digits : List Char) (count : Nat)
    : natOfDigits (digits ++ List.replicate count '0') = natOfDigits digits * 10 ^ count := by
  simp only [natOfDigits_eq, Nat.ofDigitChars_append, Nat.ofDigitChars_replicate_zero]
  exact Nat.mul_comm ..

/-- A power of ten puts zeros behind the digits, by induction on its exponent. -/
theorem natDigits_mul_ten_pow {n : Nat} (positive : 0 < n) (zeros : Nat)
    : natDigits (n * 10 ^ zeros) = natDigits n ++ List.replicate zeros '0' := by
  induction zeros with
  | zero => simp
  | succ zeros ih =>
      have more : n * 10 ^ (zeros + 1) = 10 * (n * 10 ^ zeros) + 0 := by
        rw [Nat.pow_succ, ← Nat.mul_assoc, Nat.mul_comm, Nat.add_zero]
      have power : 0 < n * 10 ^ zeros := Nat.mul_pos positive (Nat.pow_pos (by decide))
      rw [more, natDigits, ← Nat.toDigits_append_toDigits (by decide) power (by decide),
        ← natDigits, ih, List.append_assoc, List.replicate_succ']
      rfl

-----------------------------------------------------------------------------------------
-- Their number
-----------------------------------------------------------------------------------------

theorem natDigits_length_pos (n : Nat) : 0 < (natDigits n).length :=
  List.length_pos_iff.mpr (natDigits_ne_nil n)

theorem length_natDigits_le_iff {n places : Nat} (positive : 0 < places)
    : (natDigits n).length ≤ places ↔ n < 10 ^ places :=
  Nat.length_toDigits_le_iff (by decide) positive

theorem lt_ten_pow_length (n : Nat) : n < 10 ^ (natDigits n).length :=
  (length_natDigits_le_iff (natDigits_length_pos n)).mp (Nat.le_refl _)

theorem ten_pow_length_le {n : Nat} (positive : 0 < n) : 10 ^ ((natDigits n).length - 1) ≤ n := by
  refine Nat.not_lt.mp fun below => ?_
  rcases Nat.eq_zero_or_pos ((natDigits n).length - 1) with one | more
  · rw [one] at below
    omega
  · have shorter := (length_natDigits_le_iff more).mpr below
    have long := natDigits_length_pos n
    omega

end PerfLedger
