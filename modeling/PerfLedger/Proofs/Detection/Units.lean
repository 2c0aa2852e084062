import PerfLedger.Detection.Polarity
import PerfLedger.Proofs.Text.Lowering

/-! Units in lower case. What a unit tells depends on its text in lower case in the sense of
Unicode, of which folding its letters one by one keeps all that matters: the ASCII characters and
the blanks.
-/

namespace PerfLedger.Polarity

-----------------------------------------------------------------------------------------
-- Lowered units
-----------------------------------------------------------------------------------------

/-- The signs of micro, of which one is a Greek letter, as `u`. -/
def microAsU (c : Char) : Char := if c = '\u00B5' || c = '\u03BC' then 'u' else c

/-- A unit in lower case, written out as the form in which it is compared. -/
def lowerUnit (unit : String) : List Char :=
  (slashPer ((lowerFrom false (trim unit.toList)).map microAsU)).filter fun c => !isBlank c

theorem microAsU_of_ne {c : Char} (other : ¬ (c = '\u00B5' ∨ c = '\u03BC')) : microAsU c = c :=
  if_neg (by simpa using other)

/-- Outside of ASCII only the kelvin sign and the signs of micro are folded. -/
theorem foldUnitChar_of_not_ascii {c : Char} (outside : 128 ≤ c.toNat) (kelvin : c ≠ '\u212A')
    (micro : ¬ (c = '\u00B5' ∨ c = '\u03BC')) (greek : c ≠ '\u039C')
    : foldUnitChar c = c := by
  rw [not_or] at micro
  simp [foldUnitChar, kelvin, micro, greek, toLower_of_not_ascii outside]

/-- A letter is folded as it is lowered, unless it is outside of ASCII and stays there. -/
theorem foldUnitChar_eq_or_foreign (c : Char)
    : microAsU (lowerChar c) = foldUnitChar c
      ∨ IsForeign (microAsU (lowerChar c)) ∧ IsForeign (foldUnitChar c) := by
  have letters : lowerChar '\u212A' = 'k' ∧ lowerChar '\u00B5' = '\u00B5'
      ∧ lowerChar '\u03BC' = '\u03BC' ∧ lowerChar '\u039C' = '\u03BC' := by
    decide +kernel
  have signs : ∀ sign ∈ ['\u212A', '\u00B5', '\u03BC', '\u039C'],
      microAsU (lowerChar sign) = foldUnitChar sign := by
    simp [letters, microAsU, foldUnitChar]
  rcases Nat.lt_or_ge c.toNat 128 with ascii | outside
  · have same : microAsU (lowerChar c) = foldUnitChar c := of_ascii c ascii (by decide +kernel)
    exact .inl same
  by_cases sign : c ∈ ['\u212A', '\u00B5', '\u03BC', '\u039C']
  · exact .inl (signs c sign)
  simp only [List.mem_cons, List.not_mem_nil, or_false, not_or] at sign
  obtain ⟨kelvin, mu, mu', greek⟩ := sign
  have micro : ¬ (c = '\u00B5' ∨ c = '\u03BC') := not_or.mpr ⟨mu, mu'⟩
  rw [foldUnitChar_of_not_ascii outside kelvin micro greek]
  rcases lowerChar_of_not_ascii outside kelvin with same | ⟨foreign, foreign', greek'⟩
  · exact .inl (by rw [same, microAsU_of_ne micro])
  · rw [microAsU_of_ne (greek ∘ greek')]
    exact .inr ⟨foreign', foreign⟩

/-- Texts with the same ASCII characters and blanks, and others outside of ASCII in between. A dot
above a small `i` counts as part of another letter.
-/
inductive Resembles : List Char → List Char → Prop where
  | nil : Resembles [] []
  | same {text text' : List Char} (c : Char) (rest : Resembles text text')
      : Resembles (c :: text) (c :: text')
  | foreign {c c' : Char} {text text' : List Char} (outside : IsForeign c) (outside' : IsForeign c')
      (rest : Resembles text text')
      : Resembles (c :: text) (c' :: text')
  | dotted {text text' : List Char} (rest : Resembles text text')
      : Resembles ('i' :: '\u0307' :: text) ('\u0130' :: text')

namespace Resembles

variable {front text text' : List Char}

/-- ASCII characters other than a small `i` are the same in both texts, by induction on them. -/
theorem append_left (plain : ∀ c ∈ front, c.toNat < 128 ∧ c ≠ 'i')
    (h : Resembles (front ++ text) text')
    : ∃ rest, text' = front ++ rest ∧ Resembles text rest := by
  induction front generalizing text' with
  | nil => exact ⟨text', rfl, h⟩
  | cons c front ih =>
      obtain ⟨⟨ascii, letter⟩, plain⟩ := List.forall_mem_cons.mp plain
      generalize whole : c :: front ++ text = start at h
      cases h with
      | nil => contradiction
      | same _ rest =>
          obtain ⟨rfl, rfl⟩ := List.cons_eq_cons.mp whole
          obtain ⟨tail, rfl, h⟩ := ih plain rest
          exact ⟨tail, rfl, h⟩
      | foreign outside =>
          obtain rfl := (List.cons_eq_cons.mp whole).1
          exact absurd outside.1 (Nat.not_le.mpr ascii)
      | dotted => exact absurd (List.cons_eq_cons.mp whole).1 letter

theorem append_right (ascii : ∀ c ∈ front, c.toNat < 128) (h : Resembles text (front ++ text'))
    : ∃ rest, text = front ++ rest ∧ Resembles rest text' := by
  induction front generalizing text with
  | nil => exact ⟨text, rfl, h⟩
  | cons c front ih =>
      obtain ⟨known, ascii⟩ := List.forall_mem_cons.mp ascii
      rw [List.cons_append] at h
      cases h with
      | same _ rest =>
          obtain ⟨tail, rfl, h⟩ := ih ascii rest
          exact ⟨tail, rfl, h⟩
      | foreign _ outside => exact absurd outside.1 (Nat.not_le.mpr known)
      | dotted => exact absurd known (by decide)

end Resembles

/-- The word that is written as a slash. -/
def per : List Char := [' ', 'p', 'e', 'r', ' ']

theorem per_plain : ∀ c ∈ per, c.toNat < 128 ∧ c ≠ 'i' := by
  simp [per]

theorem slashPer_cons {c : Char} {text : List Char} (other : ¬ per <+: c :: text)
    : slashPer (c :: text) = c :: slashPer text := by
  rw [slashPer]
  rintro rest rfl rfl
  exact other ⟨rest, rfl⟩

namespace Resembles

variable {text text' : List Char}

/-- Slashes are written at the same places, by induction on the text where letters are single. -/
theorem slashPer (h : Resembles text text')
    : Resembles (Polarity.slashPer text) (Polarity.slashPer text') := by
  fun_induction Polarity.slashPer text' generalizing text with
  | case1 rest ih =>
      have here : Resembles text (per ++ rest) := h
      obtain ⟨rest', rfl, tail⟩ := here.append_right fun c member => (per_plain c member).1
      exact .same '/' (ih tail)
  | case2 c rest other ih =>
      have same : ¬ per <+: text := by
        rintro ⟨rest', rfl⟩
        obtain ⟨tail, whole, -⟩ := h.append_left per_plain
        obtain ⟨rfl, rfl⟩ := List.cons_eq_cons.mp whole
        exact other tail rfl rfl
      cases h with
      | same _ rest =>
          rw [slashPer_cons same]
          exact .same c (ih rest)
      | foreign outside outside' rest =>
          rw [slashPer_cons same]
          exact .foreign outside outside' (ih rest)
      | @dotted text _ rest =>
          have next : ¬ per <+: '\u0307' :: text := by
            rintro ⟨_, whole⟩
            exact absurd (List.cons_eq_cons.mp whole).1 (by decide)
          rw [slashPer_cons same, slashPer_cons next]
          exact .dotted (ih rest)
  | case3 =>
      cases h
      exact .nil

/-- The blanks of two texts are at the same places, by induction on them. -/
theorem filter (h : Resembles text text')
    : Resembles (text.filter fun c => !isBlank c) (text'.filter fun c => !isBlank c) := by
  induction h with
  | nil => exact .nil
  | same c _ ih =>
      rw [List.filter_cons, List.filter_cons]
      split
      · exact .same c ih
      · exact ih
  | foreign outside outside' _ ih =>
      rw [List.filter_cons_of_pos (by simpa using outside.2),
        List.filter_cons_of_pos (by simpa using outside'.2)]
      exact .foreign outside outside' ih
  | dotted _ ih => exact .dotted ih

/-- Two texts are cut at the same slash, if there is one, by induction on them. -/
theorem cut (h : Resembles text text')
    : Resembles (text.takeWhile (· != '/')) (text'.takeWhile (· != '/'))
      ∧ (text.dropWhile (· != '/') = [] ∧ text'.dropWhile (· != '/') = []
        ∨ ∃ rest rest', text.dropWhile (· != '/') = '/' :: rest
            ∧ text'.dropWhile (· != '/') = '/' :: rest' ∧ Resembles rest rest') := by
  induction h with
  | nil => exact ⟨.nil, .inl ⟨rfl, rfl⟩⟩
  | @same text text' c rest ih =>
      by_cases slash : c = '/'
      · subst slash
        exact ⟨.nil, .inr ⟨text, text', rfl, rfl, rest⟩⟩
      · simp only [List.takeWhile_cons, List.dropWhile_cons, bne_iff_ne.mpr slash, if_true]
        exact ⟨.same c ih.1, ih.2⟩
  | foreign outside outside' _ ih =>
      have other {c : Char} (outside : IsForeign c) : (c != '/') = true := by
        rw [bne_iff_ne]
        rintro rfl
        exact absurd outside (by decide)
      simp only [List.takeWhile_cons, List.dropWhile_cons, other outside, other outside', if_true]
      exact ⟨.foreign outside outside' ih.1, ih.2⟩
  | dotted _ ih => exact ⟨.dotted ih.1, ih.2⟩

/-- A word of ASCII characters is one of two texts exactly if it is the other, by induction. -/
theorem eq_iff (h : Resembles text text') {word : List Char} (ascii : ∀ c ∈ word, c.toNat < 128)
    : word = text ↔ word = text' := by
  induction h generalizing word with
  | nil => exact Iff.rfl
  | same c _ ih =>
      cases word with
      | nil => exact iff_of_false nofun nofun
      | cons first word =>
          rw [List.cons_eq_cons, List.cons_eq_cons, ih (List.forall_mem_cons.mp ascii).2]
  | foreign outside outside' =>
      refine iff_of_false ?_ ?_
      · rintro rfl
        exact absurd (ascii _ List.mem_cons_self) (Nat.not_lt.mpr outside.1)
      · rintro rfl
        exact absurd (ascii _ List.mem_cons_self) (Nat.not_lt.mpr outside'.1)
  | dotted =>
      refine iff_of_false ?_ ?_
      · rintro rfl
        exact absurd (ascii '\u0307' (by simp)) (by decide)
      · rintro rfl
        exact absurd (ascii '\u0130' List.mem_cons_self) (by decide)

/-- The same known units are found in two texts. -/
theorem isOneOf_eq (h : Resembles text text') {units : List String}
    (ascii : units.all fun unit => unit.toList.all fun c => c.toNat < 128)
    : isOneOf units text = isOneOf units text' := by
  rw [isOneOf, isOneOf, Bool.eq_iff_iff, List.any_eq_true, List.any_eq_true]
  refine exists_congr fun unit => and_congr_right fun member => ?_
  have letters := List.all_eq_true.mp (List.all_eq_true.mp ascii unit member)
  rw [beq_iff_eq, beq_iff_eq]
  exact h.eq_iff fun c letter => of_decide_eq_true (letters c letter)

/-- The same polarity is told by two texts. -/
theorem ofNormalized?_eq (h : Resembles text text')
    : ofNormalized? text = ofNormalized? text' := by
  obtain ⟨what, rest⟩ := h.cut
  have time {text text' : List Char} (h : Resembles text text')
      : isOneOf timeUnits text = isOneOf timeUnits text' :=
    h.isOneOf_eq (by decide +kernel)
  have size : isOneOf sizeUnits _ = isOneOf sizeUnits _ := what.isOneOf_eq (by decide +kernel)
  have rate : isOneOf rateUnits _ = isOneOf rateUnits _ := what.isOneOf_eq (by decide +kernel)
  unfold ofNormalized?
  dsimp only
  rw [time what, size, rate]
  rcases rest with ⟨none, none'⟩ | ⟨per, per', cut, cut', rest⟩
  · rw [none, none']
  · simp only [cut, cut', time rest]

end Resembles

-----------------------------------------------------------------------------------------
-- Units in lower case
-----------------------------------------------------------------------------------------

/-- Whether in a word or not, lowering resembles folding, by induction on the text. -/
theorem resembles_lowerFrom (inWord : Bool) (text : List Char)
    : Resembles ((lowerFrom inWord text).map microAsU) (text.map foldUnitChar) := by
  fun_induction lowerFrom inWord text with
  | case1 => exact .nil
  | case2 inWord rest tail ih => exact .dotted ih
  | case3 inWord c rest tail dotless final ih =>
      simp only [Bool.and_eq_true, decide_eq_true_eq] at final
      obtain ⟨⟨rfl, -⟩, -⟩ := final
      exact .foreign (by decide) (by decide) ih
  | case4 inWord c rest tail _ _ ih =>
      rcases foldUnitChar_eq_or_foreign c with same | ⟨foreign, foreign'⟩
      · rw [List.map_cons, List.map_cons, same]
        exact .same _ ih
      · exact .foreign foreign foreign' ih

/-- A unit tells what its text in lower case tells. -/
theorem infer?_eq_lowered (unit : String) : infer? unit = ofNormalized? (lowerUnit unit) :=
  (resembles_lowerFrom false (trim unit.toList)).slashPer.filter.ofNormalized?_eq.symm

end PerfLedger.Polarity
