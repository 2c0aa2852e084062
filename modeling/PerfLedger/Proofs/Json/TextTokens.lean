import Mathlib.Data.List.Basic
import PerfLedger.Json.Printer
import PerfLedger.Json.Token

/-! Quoted texts, as pieces. The pieces of a text are found whatever they are, and the pieces of
a text that was escaped spell that text, whatever characters it holds.
-/

namespace PerfLedger

-----------------------------------------------------------------------------------------
-- Pieces of quoted texts
-----------------------------------------------------------------------------------------

/-- The inside of a quoted text: characters that stand for themselves, escapes by letter, and
escapes by number.
-/
inductive Pieces : List TextUnit → List Char → Prop where
  | nil : Pieces [] []
  | plain {c : Char} {units : List TextUnit} {text : List Char} (quote : c ≠ '"')
      (slash : c ≠ '\\') (printable : ¬ c.toNat < 0x20) (rest : Pieces units text)
      : Pieces (.char c :: units) (c :: text)
  | letter {letter value : Char} {units : List TextUnit} {text : List Char}
      (known : simpleEscape? letter = some value) (rest : Pieces units text)
      : Pieces (.char value :: units) ('\\' :: letter :: text)
  | number {h1 h2 h3 h4 : Char} {code : Nat} {units : List TextUnit} {text : List Char}
      (known : hexUnit? h1 h2 h3 h4 = some code) (rest : Pieces units text)
      : Pieces (.unit code :: units) ('\\' :: 'u' :: h1 :: h2 :: h3 :: h4 :: text)

theorem scanUnits_plain {c : Char} (text : List Char) (quote : c ≠ '"') (slash : c ≠ '\\')
    (printable : ¬ c.toNat < 0x20)
    : scanUnits (c :: text) = (.char c :: (scanUnits text).1, (scanUnits text).2) := by
  rw [scanUnits.eq_def]
  dsimp only
  rw [if_neg quote, if_neg slash, if_neg printable]

theorem scanUnits_letter {letter value : Char} (text : List Char)
    (known : simpleEscape? letter = some value)
    : scanUnits ('\\' :: letter :: text)
      = (.char value :: (scanUnits text).1, (scanUnits text).2) := by
  rw [scanUnits.eq_def]
  dsimp only
  rw [if_neg (by decide), if_pos rfl, known]

theorem scanUnits_number {h1 h2 h3 h4 : Char} {code : Nat} (text : List Char)
    (number : hexUnit? h1 h2 h3 h4 = some code)
    : scanUnits ('\\' :: 'u' :: h1 :: h2 :: h3 :: h4 :: text)
      = (.unit code :: (scanUnits text).1, (scanUnits text).2) := by
  have unnamed : simpleEscape? 'u' = none := rfl
  rw [scanUnits.eq_def]
  dsimp only
  rw [if_neg (by decide), if_pos rfl, unnamed]
  dsimp only
  rw [if_pos rfl, number]

theorem scanUnits_quote (text : List Char) : scanUnits ('"' :: text) = ([], .closed text) := by
  rw [scanUnits.eq_def]
  rfl

/-- The pieces of a quoted text are found, by induction on them. -/
theorem Pieces.scanUnits_eq {units : List TextUnit} {inside : List Char} (h : Pieces units inside)
    (rest : List Char)
    : scanUnits (inside ++ '"' :: rest) = (units, .closed rest) := by
  induction h with
  | nil => exact scanUnits_quote rest
  | plain quote slash printable _ ih =>
      rw [List.cons_append, scanUnits_plain _ quote slash printable, ih]
  | letter known _ ih => rw [List.cons_append, List.cons_append, scanUnits_letter _ known, ih]
  | number known _ ih =>
      simp only [List.cons_append]
      rw [scanUnits_number _ known, ih]

-----------------------------------------------------------------------------------------
-- Escaped characters
-----------------------------------------------------------------------------------------

/-- The letter that stands for a character in an escape, if there is one. -/
def escapeLetter? (c : Char) : Option Char :=
  [('"', '"'), ('\\', '\\'), ('\x08', 'b'), ('\x0c', 'f'), ('\n', 'n'), ('\r', 'r'),
    ('\t', 't')].lookup c

/-- Every escape letter is read as the character it stands for. -/
theorem simpleEscape?_of_escapeLetter {c letter : Char} (known : escapeLetter? c = some letter)
    : simpleEscape? letter = some c := by
  unfold escapeLetter? at known
  simp only [List.lookup_cons, List.lookup_nil] at known
  repeat' split at known
  all_goals cases known
  all_goals
    next same =>
      rw [eq_of_beq same]
      rfl

/-- Characters are escaped by letter where there is one, then by number, else not at all. -/
theorem escapeChar_eq (c : Char)
    : escapeChar c
      = match escapeLetter? c with
        | some letter => ['\\', letter]
        | none =>
            if c.toNat < 0x20 then
              ['\\', 'u', '0', '0', hexDigit (c.toNat / 16), hexDigit (c.toNat % 16)]
            else [c] := by
  by_cases special : c ∈ ['"', '\\', '\x08', '\x0c', '\n', '\r', '\t']
  · simp only [List.mem_cons, List.not_mem_nil, or_false] at special
    rcases special with rfl | rfl | rfl | rfl | rfl | rfl | rfl <;> rfl
  · simp only [List.mem_cons, List.not_mem_nil, or_false, not_or] at special
    have unnamed : escapeLetter? c = none := by
      simp [escapeLetter?, List.lookup_cons, beq_eq_false_iff_ne.mpr, special]
    simp [escapeChar, unnamed, special]

/-- The piece that a character is written as: control characters without a letter are
written by number.
-/
def pieceOf (c : Char) : TextUnit :=
  if escapeLetter? c = none ∧ c.toNat < 0x20 then .unit c.toNat else .char c

/-- The digits of a number below 16 have that value. -/
theorem hexValue?_hexDigit : ∀ n < 16, hexValue? (hexDigit n) = some n := by
  decide

/-- Two digits after two zeros write a number of one byte. -/
theorem hexUnit?_byte {n : Nat} (small : n < 0x100)
    : hexUnit? '0' '0' (hexDigit (n / 16)) (hexDigit (n % 16)) = some n := by
  have zero : hexValue? '0' = some 0 := rfl
  have value : n / 16 * 16 + n % 16 = n := by omega
  simp [hexUnit?, zero, hexValue?_hexDigit (n / 16) (by omega),
    hexValue?_hexDigit (n % 16) (by omega), value]

/-- An escaped character is written as its piece. -/
theorem Pieces.escapedChar (c : Char) {units : List TextUnit} {text : List Char}
    (rest : Pieces units text)
    : Pieces (pieceOf c :: units) (escapeChar c ++ text) := by
  rw [escapeChar_eq]
  cases letter : escapeLetter? c with
  | some named =>
      simp only [pieceOf, letter, reduceCtorEq, false_and, ↓reduceIte, List.cons_append,
        List.nil_append]
      exact .letter (simpleEscape?_of_escapeLetter letter) rest
  | none =>
      by_cases control : c.toNat < 0x20
      · have number := hexUnit?_byte (show c.toNat < 0x100 by omega)
        simp only [pieceOf, letter, control, and_self, ↓reduceIte, List.cons_append,
          List.nil_append]
        exact .number number rest
      · have quote : c ≠ '"' := by
          rintro rfl
          contradiction
        have slash : c ≠ '\\' := by
          rintro rfl
          contradiction
        simp only [pieceOf, letter, control, and_false, ↓reduceIte, List.cons_append,
          List.nil_append]
        exact .plain quote slash control rest

/-- A piece spells the character it was written for; no control character is half of a
surrogate pair.
-/
theorem spell_pieceOf (c : Char) (units : List TextUnit)
    : spell (pieceOf c :: units) = (spell units).cons c := by
  unfold pieceOf
  split
  next control =>
    have small : c.toNat < 0x20 := control.2
    have trailing : isTrailingSurrogate c.toNat = false := by
      simp only [isTrailingSurrogate, Bool.and_eq_false_iff, decide_eq_false_iff_not]
      omega
    have leading : isLeadingSurrogate c.toNat = false := by
      simp only [isLeadingSurrogate, Bool.and_eq_false_iff, decide_eq_false_iff_not]
      omega
    rw [spell.eq_def]
    simp [trailing, leading]
  next => rfl

-----------------------------------------------------------------------------------------
-- Texts
-----------------------------------------------------------------------------------------

/-- An escaped text is written in the pieces of its characters, by induction on them. -/
theorem pieces_escaped (chars : List Char)
    : Pieces (chars.map pieceOf) (chars.flatMap escapeChar) := by
  induction chars with
  | nil => exact .nil
  | cons c chars ih => exact ih.escapedChar c

/-- The pieces of a written text spell it, by induction on its characters. -/
theorem spell_map_pieceOf (chars : List Char) : spell (chars.map pieceOf) = .chars chars := by
  induction chars with
  | nil => rfl
  | cons c chars ih =>
      rw [List.map_cons, spell_pieceOf, ih]
      rfl

end PerfLedger
