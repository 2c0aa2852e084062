import PerfLedger.Text.Pattern

/-! Matching without backtracking, and the place where a search stops. A run takes everything it
can as soon as what follows it matches there, so backtracking matters only where it fails.
-/

namespace PerfLedger

namespace Pattern

variable {α : Type}

/-- A run that everything else can follow takes all the characters it can. -/
theorem matchRun_eq {isMember : Char → Bool} {next : List Char → Option α} {text : List Char}
    {found : α} (follows : next (text.dropWhile isMember) = some found)
    : matchRun isMember next text = some found := by
  induction text with
  | nil => exact follows
  | cons c rest ih =>
      by_cases member : isMember c = true
      · rw [List.dropWhile_cons_of_pos member] at follows
        rw [matchRun, if_pos member, ih follows]
        rfl
      · rw [List.dropWhile_cons_of_neg member] at follows
        rw [matchRun, if_neg member, follows]

/-- An optional part is left out where it does not match. -/
theorem optional_matchThen_of_none {part : Pattern} {next : List Char → Option α}
    {text : List Char} (absent : part.matchThen next text = none)
    : (optional part).matchThen next text = next text := by
  rw [matchThen, absent]
  rfl

/-- An optional part is taken where it matches. -/
theorem optional_matchThen_of_some {part : Pattern} {next : List Char → Option α}
    {text : List Char} {found : α} (present : part.matchThen next text = some found)
    : (optional part).matchThen next text = some found := by
  rw [matchThen, present]
  rfl

/-- A search finds nothing if the pattern matches nowhere, and else the part where it matches
first.
-/
theorem find?_spec (p : Pattern) (text : List Char)
    : (p.find? text = none ∧ ∀ before rest, text = before ++ rest → p.ahead? rest = none)
      ∨ ∃ before rest part, text = before ++ rest ∧ p.ahead? rest = some part
          ∧ p.find? text = some part
          ∧ ∀ earlier behind, text = earlier ++ behind → earlier.length < before.length →
              p.ahead? behind = none := by
  have here {text part : List Char} (found : p.ahead? text = some part)
      (first : p.find? text = some part)
      : ∃ before rest part, text = before ++ rest ∧ p.ahead? rest = some part
          ∧ p.find? text = some part
          ∧ ∀ earlier behind, text = earlier ++ behind → earlier.length < before.length →
              p.ahead? behind = none :=
    ⟨[], text, part, rfl, found, first, fun _ _ _ fewer => absurd fewer (Nat.not_lt_zero _)⟩
  induction text with
  | nil =>
      cases found : p.ahead? [] with
      | some part => exact .inr (here found found)
      | none =>
          refine .inl ⟨found, fun before rest split => ?_⟩
          rw [(List.append_eq_nil_iff.mp split.symm).2]
          exact found
  | cons c text ih =>
      cases found : p.ahead? (c :: text) with
      | some part => exact .inr (here found (by rw [find?, found]))
      | none =>
          have on : p.find? (c :: text) = p.find? text := by rw [find?, found]
          rw [on]
          rcases ih with ⟨nowhere, absent⟩ | ⟨before, rest, part, rfl, ahead, first, earliest⟩
          · refine .inl ⟨nowhere, fun before rest split => ?_⟩
            rcases List.append_eq_cons_iff.mp split.symm with ⟨-, rfl⟩ | ⟨more, -, tail⟩
            · exact found
            · exact absent more rest tail
          · refine .inr ⟨c :: before, rest, part, rfl, ahead, first,
              fun earlier behind split fewer => ?_⟩
            rcases List.append_eq_cons_iff.mp split.symm with ⟨-, rfl⟩ | ⟨more, rfl, tail⟩
            · exact found
            · exact earliest more behind tail (Nat.lt_of_succ_lt_succ fewer)

end Pattern

end PerfLedger
