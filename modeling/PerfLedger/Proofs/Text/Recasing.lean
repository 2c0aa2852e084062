import Mathlib
import PerfLedger.Text.Blank

/-! Texts that differ at most in the case of ASCII letters. No other letter counts: a text changes
none of its characters but these, and it has the same small letters.
-/

namespace PerfLedger

variable {c c' : Char} {s s' s'' : String}

/-- A character and the same one in the same or in the other case, if it is an ASCII letter. -/
def RecasedChar (c c' : Char) : Prop := c' = c ∨ c' = c.toUpper ∨ c' = c.toLower

/-- A text and the same one with some of its ASCII letters in the other case. -/
def Recased (s s' : String) : Prop := List.Forall₂ RecasedChar s.toList s'.toList

theorem recasedChar_iff : RecasedChar c c' ↔ c.toLower = c'.toLower := by
  constructor
  · rintro (rfl | rfl | rfl) <;> simp
  · intro same
    by_cases capital : c'.isUpper
    · have small : ¬ c'.isLower := Char.not_isLower_of_isUpper capital
      refine .inr (.inl ?_)
      rw [← Char.toUpper_toLower_eq_toUpper, same, Char.toUpper_toLower_eq_toUpper,
        Char.toUpper_eq_of_not_isLower small]
    · exact .inr (.inr (by rw [same, Char.toLower_eq_of_not_isUpper capital]))

theorem recased_iff_map
    : Recased s s' ↔ s.toList.map Char.toLower = s'.toList.map Char.toLower := by
  have each : RecasedChar = fun c c' => c.toLower = c'.toLower :=
    funext₂ fun _ _ => propext recasedChar_iff
  rw [Recased, each, ← List.forall₂_eq_eq_eq, List.forall₂_map_left_iff,
    List.forall₂_map_right_iff]

instance (s s' : String) : Decidable (Recased s s') := decidable_of_iff _ recased_iff_map.symm

/-- Texts differ in nothing but the case of ASCII letters exactly if their small letters agree. -/
theorem recased_iff : Recased s s' ↔ s.toLower = s'.toLower := by
  rw [recased_iff_map, ← String.toList_inj, String.toLower, String.toLower, String.toList_map,
    String.toList_map]

-----------------------------------------------------------------------------------------
-- Small letters
-----------------------------------------------------------------------------------------

theorem toLower_of_not_ascii (outside : 128 ≤ c.toNat) : c.toLower = c := by
  refine Char.toLower_eq_of_not_isUpper ?_
  simp [Char.isUpper, UInt32.le_iff_toNat_le]
  omega

/-- What holds of each code below 128 holds of each character in ASCII. -/
@[elab_as_elim]
theorem of_ascii {holds : Char → Prop} (c : Char) (ascii : c.toNat < 128)
    (each : ∀ code < 128, holds (.ofNat code))
    : holds c := by
  have known := each c.toNat ascii
  rwa [Char.ofNat_toNat] at known

theorem isBlank_toLower (c : Char) : isBlank c.toLower = isBlank c := by
  rcases Nat.lt_or_ge c.toNat 128 with ascii | outside
  · exact of_ascii c ascii (by decide +kernel)
  · rw [toLower_of_not_ascii outside]

/-- The blanks at the ends of a text are the same in small letters. -/
theorem trim_map_toLower (text : List Char)
    : trim (text.map Char.toLower) = (trim text).map Char.toLower := by
  have start (text : List Char) : trimStart (text.map Char.toLower)
      = (trimStart text).map Char.toLower := by
    have same : isBlank ∘ Char.toLower = isBlank := funext isBlank_toLower
    rw [trimStart, List.dropWhile_map, same, trimStart]
  rw [trim, start, trimEnd, ← List.map_reverse, ← trimStart, start, ← List.map_reverse]
  rfl

end PerfLedger
