import PerfLedger.Proofs.Text.Recasing
import PerfLedger.Text.Blank
import PerfLedger.Text.Lowercase

/-! Lower case as units see it. The letters of known units are in ASCII. A letter outside of ASCII
has its small letter outside too, but for the kelvin sign and a capital `I` with a dot.
-/

namespace PerfLedger

variable {c : Char}

-----------------------------------------------------------------------------------------
-- Characters outside of ASCII
-----------------------------------------------------------------------------------------

/-- A character outside of ASCII that is not blank. -/
def IsForeign (c : Char) : Prop := 128 ≤ c.toNat ∧ isBlank c = false

instance (c : Char) : Decidable (IsForeign c) := inferInstanceAs (Decidable (_ ∧ _))

/-- The codes of the blanks outside of ASCII. -/
def foreignBlanks : List Nat :=
  [0x85, 0xA0, 0x1680, 0x2000, 0x2001, 0x2002, 0x2003, 0x2004, 0x2005, 0x2006, 0x2007, 0x2008,
    0x2009, 0x200A, 0x2028, 0x2029, 0x202F, 0x205F, 0x3000]

/-- All codes from one to another are codes of characters outside of ASCII that are not blank. -/
def ForeignCodes (first last : Int) : Prop :=
  128 ≤ first ∧ (last < 0xD800 ∨ 0xE000 ≤ first ∧ last < 0x110000)
    ∧ ∀ blank ∈ foreignBlanks, ¬ (first ≤ blank ∧ blank ≤ last)

instance (first last : Int) : Decidable (ForeignCodes first last) :=
  inferInstanceAs (Decidable (_ ∧ _ ∧ _))

theorem isForeign_iff : IsForeign c ↔ 128 ≤ c.toNat ∧ c.toNat ∉ foreignBlanks := by
  refine and_congr_right fun outside => ?_
  rw [← Bool.not_eq_true]
  simp [isBlank, foreignBlanks]
  omega

theorem ForeignCodes.isForeign {first last : Int} (codes : ForeignCodes first last)
    (low : first ≤ c.toNat) (high : c.toNat ≤ last)
    : IsForeign c := by
  obtain ⟨outside, -, blanks⟩ := codes
  exact isForeign_iff.mpr ⟨by omega, fun blank => blanks _ blank ⟨low, high⟩⟩

theorem ForeignCodes.toNat_ofNat {first last code : Int} (codes : ForeignCodes first last)
    (low : first ≤ code) (high : code ≤ last)
    : (Char.ofNat code.toNat).toNat = code := by
  obtain ⟨outside, valid, -⟩ := codes
  rw [Char.toNat_ofNat, if_pos]
  · omega
  · simp only [Nat.isValidChar]
    omega

-----------------------------------------------------------------------------------------
-- Small letters
-----------------------------------------------------------------------------------------

/-- Runs of capital letters are in ASCII or outside, and outside the small letters are foreign as
well, but for the kelvin sign. Among these only the Greek letter becomes the sign of micro.
-/
theorem capitalRuns_foreign
    : ∀ run ∈ capitalRuns, run.2.1 < 128
        ∨ ForeignCodes run.1 run.2.1
          ∧ (run.1 = 0x212A ∧ run.2.1 = 0x212A
            ∨ ForeignCodes (run.1 + run.2.2.2) (run.2.1 + run.2.2.2)
              ∧ ∀ micro ∈ [0xB5, 0x3BC], run.1 + run.2.2.2 ≤ (micro : Int) →
                  micro ≤ run.2.1 + run.2.2.2 → micro - run.2.2.2 = 0x39C) := by
  decide +kernel

/-- Outside of ASCII, a letter with a small letter of its own is not blank, nor is that. -/
theorem lowerChar_of_not_ascii (outside : 128 ≤ c.toNat) (other : c ≠ '\u212A')
    : lowerChar c = c
      ∨ IsForeign c ∧ IsForeign (lowerChar c)
        ∧ (lowerChar c = '\u00B5' ∨ lowerChar c = '\u03BC' → c = '\u039C') := by
  unfold lowerChar
  split
  next distance known =>
    obtain ⟨⟨first, last, apart, distance⟩, found, rfl⟩ := Option.map_eq_some_iff.mp known
    have member := List.mem_of_find?_eq_some found
    have within := List.find?_some found
    simp only [Bool.and_eq_true, decide_eq_true_eq] at within
    obtain ⟨⟨low, high⟩, -⟩ := within
    right
    rcases capitalRuns_foreign _ member with ascii | ⟨codes, ⟨kelvin, kelvin'⟩ | ⟨codes', micro⟩⟩
    · dsimp only at ascii
      omega
    · refine absurd (Char.toNat_inj.mp ?_) other
      have code : '\u212A'.toNat = 0x212A := rfl
      dsimp only at kelvin kelvin'
      omega
    · dsimp only at codes codes' micro ⊢
      have code : (Char.ofNat (c.toNat + distance).toNat).toNat = c.toNat + distance :=
        codes'.toNat_ofNat (by omega) (by omega)
      refine ⟨codes.isForeign (by omega) (by omega), codes'.isForeign (by omega) (by omega), ?_⟩
      rintro (sign | sign)
      all_goals
        have known := congrArg Char.toNat sign
        refine Char.toNat_inj.mp ?_
        have greek : '\u039C'.toNat = 0x39C := rfl
      · have := micro 0xB5 (by decide)
        have sign : '\u00B5'.toNat = 0xB5 := rfl
        omega
      · have := micro 0x3BC (by decide)
        have sign : '\u03BC'.toNat = 0x3BC := rfl
        omega
  next => exact .inl rfl

end PerfLedger
