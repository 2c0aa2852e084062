import PerfLedger.Record.Spread
import PerfLedger.Proofs.Double.Figures
import PerfLedger.Proofs.Double.NearestDecimals
import PerfLedger.Proofs.Text.Patterns
import PerfLedger.Proofs.Text.Recasing

/-! The spread of a record is read from the first figure of its range annotation: the one that
the first digit belongs to, as far as it goes.
-/

namespace PerfLedger

-----------------------------------------------------------------------------------------
-- Figures as a pattern
-----------------------------------------------------------------------------------------

namespace Pattern

variable {α : Type} {next : List Char → Option α} {text rest : List Char} {found : α}

/-- Digits are matched to their end where everything else can follow them. -/
theorem digits_matchThen (follows : next (text.dropWhile isDecimalDigit) = some found)
    : digits.matchThen next text
      = if (text.takeWhile isDecimalDigit).isEmpty then none else some found := by
  cases text with
  | nil => rfl
  | cons c text =>
      rw [digits]
      by_cases digit : isDecimalDigit c = true
      · rw [List.dropWhile_cons_of_pos digit] at follows
        rw [matchThen, matchThen, if_pos digit, matchThen, matchRun_eq follows,
          List.takeWhile_cons_of_pos digit]
        rfl
      · rw [matchThen, matchThen, if_neg digit, List.takeWhile_cons_of_neg digit]
        rfl

/-- A letter is matched where it stands. -/
theorem letter_matchThen (c : Char) : (letter c).matchThen next (c :: text) = next text := by
  simp [letter, matchThen]

/-- One of two letters is matched if it stands there. -/
theorem either_letter_matchThen (one other c : Char) (next : List Char → Option α)
    (text : List Char)
    : (either (letter one) (letter other)).matchThen next (c :: text)
      = if c = one ∨ c = other then next text else none := by
  have choice : (either (letter one) (letter other)).matchThen next (c :: text)
      = ((if c = one then next text else none).or (if c = other then next text else none)) := by
    simp [letter, matchThen]
  rw [choice]
  split
  next first => cases next text <;> simp [first]
  next first => simp [first]

/-- Digits may have a sign in front, which is none of them. -/
theorem signed_matchThen (text : List Char)
    : (chain (optional (either (letter '-') (letter '+'))) digits).matchThen some text
      = match text with
        | '-' :: text => digits.matchThen some text
        | '+' :: text => digits.matchThen some text
        | text => digits.matchThen some text := by
  have signed {c : Char} {text : List Char} (sign : c = '-' ∨ c = '+')
      : (optional (either (letter '-') (letter '+'))).matchThen (digits.matchThen some) (c :: text)
        = digits.matchThen some text := by
    have taken := either_letter_matchThen '-' '+' c (digits.matchThen some) text
    rw [if_pos sign] at taken
    cases read : digits.matchThen some text with
    | some rest => exact optional_matchThen_of_some (taken.trans read)
    | none =>
        rw [optional_matchThen_of_none (taken.trans read)]
        rcases sign with rfl | rfl <;> rfl
  rw [matchThen]
  split
  next => exact signed (.inl rfl)
  next => exact signed (.inr rfl)
  next noMinus noPlus =>
    refine optional_matchThen_of_none ?_
    cases text with
    | nil => rfl
    | cons c text =>
        rw [either_letter_matchThen]
        refine if_neg ?_
        rintro (rfl | rfl)
        · exact noMinus text rfl
        · exact noPlus text rfl

/-- The pattern of an exponent matches what an exponent is read from. -/
theorem exponent_matchThen (text : List Char)
    : exponent.matchThen some text = (exponentPart? text).map Prod.snd := by
  cases text with
  | nil => rfl
  | cons c text =>
      rw [exponent, matchThen, either_letter_matchThen, signed_matchThen]
      unfold exponentPart?
      dsimp only
      by_cases marked : c = 'e' ∨ c = 'E'
      · rw [if_pos marked, if_pos (by simpa using marked)]
        split
        all_goals
          rw [digits_matchThen rfl]
          simp only [apply_ite (Option.map Prod.snd), Option.map_none, Option.map_some]
      · rw [if_neg marked, if_neg (by simpa using marked)]
        rfl

/-- After digits the pattern takes the exponent, if there is one. -/
theorem optional_exponent_matchThen (digits fraction text : List Char)
    : (optional exponent).matchThen some text = some (scaledBy digits fraction text).2 := by
  have part := exponent_matchThen text
  unfold scaledBy
  split
  next read => exact optional_matchThen_of_some (by rw [part, read]; rfl)
  next read => exact optional_matchThen_of_none (by rw [part, read]; rfl)

/-- Digits are matched where a run of them stands in front of everything else. -/
theorem digits_matchThen_append {run : List Char} (all : AllDigits run) (nonempty : run ≠ [])
    (stop : NoDigitAhead rest) (follows : next rest = some found)
    : digits.matchThen next (run ++ rest) = some found := by
  rw [digits_matchThen (by rwa [all.dropWhile_append stop]), all.takeWhile_append stop]
  simp [nonempty]

/-- Digits are not matched where there is none. -/
theorem digits_matchThen_none (stop : NoDigitAhead text)
    : digits.matchThen next text = none := by
  cases text with
  | nil => rfl
  | cons c text => simp [digits, matchThen, stop c rfl]

/-- The pattern of a numeral matches what a numeral is read from. -/
theorem numeral_matchThen (text : List Char)
    : numeral.matchThen some text = (numeralPart? text).map Prod.snd := by
  rw [numeral, matchThen]
  cases start_text text with
  | @whole run rest shape all nonempty stop noPoint =>
      have follows : (chain (optional (chain (letter '.') (.run isDecimalDigit)))
          (optional exponent)).matchThen some rest = some (scaledBy run [] rest).2 := by
        rw [matchThen, optional_matchThen_of_none, optional_exponent_matchThen run []]
        cases rest with
        | nil => rfl
        | cons c rest => simp [letter, matchThen, noPoint c rfl]
      rw [shape, matchThen, digits_matchThen_append all nonempty stop follows,
        numeralPart?_whole all nonempty stop noPoint]
      rfl
  | @point run fraction rest shape all behind nonempty stop =>
      have pointAhead := noDigitAhead_point (fraction ++ rest)
      have scaled := optional_exponent_matchThen run fraction rest
      rw [shape, numeralPart?_point all behind nonempty stop, matchThen]
      by_cases empty : run = []
      · have present := nonempty.resolve_left (not_not_intro empty)
        rw [empty, List.nil_append, digits_matchThen_none pointAhead, ← empty, matchThen,
          letter_matchThen, matchThen, digits_matchThen_append behind present stop scaled]
        rfl
      · have follows : (chain (optional (chain (letter '.') (.run isDecimalDigit)))
            (optional exponent)).matchThen some ('.' :: (fraction ++ rest))
              = some (scaledBy run fraction rest).2 := by
          rw [matchThen]
          refine optional_matchThen_of_some ?_
          rw [matchThen, letter_matchThen, matchThen]
          exact matchRun_eq (by rwa [behind.dropWhile_append stop])
        rw [digits_matchThen_append all empty pointAhead follows]
        rfl
  | none absent =>
      have noDigit : NoDigitAhead text := by
        intro c front
        obtain ⟨rest, rfl⟩ := List.head?_eq_some_iff.mp front
        exact Bool.eq_false_iff.mpr fun digit => absent (figureAhead_digit digit rest)
      have noPoint : (chain (letter '.') (chain digits (optional exponent))).matchThen some text
          = none := by
        cases text with
        | nil => rfl
        | cons c rest =>
            by_cases point : c = '.'
            · subst point
              have stop : NoDigitAhead rest := by
                intro c front
                obtain ⟨rest, rfl⟩ := List.head?_eq_some_iff.mp front
                exact Bool.eq_false_iff.mpr absent
              rw [matchThen, letter_matchThen, matchThen, digits_matchThen_none stop]
            · simp [letter, matchThen, point]
      rw [matchThen, digits_matchThen_none noDigit, noPoint, numeralPart?_eq_none absent]
      rfl

/-- Where a figure starts the pattern matches the longest one. -/
theorem ahead?_numeral (ahead : FigureAhead text)
    : ∃ figure rest d, text = figure ++ rest ∧ numeral.ahead? text = some figure
        ∧ numeralPart? text = some (d, rest) ∧ Figure d figure := by
  obtain ⟨d, rest, read⟩ : ∃ d rest, numeralPart? text = some (d, rest) := by
    cases start_text text with
    | whole shape all nonempty stop noPoint =>
        exact ⟨_, _, shape ▸ numeralPart?_whole all nonempty stop noPoint⟩
    | point shape all behind nonempty stop =>
        exact ⟨_, _, shape ▸ numeralPart?_point all behind nonempty stop⟩
    | none absent => exact absurd ahead absent
  obtain ⟨figure, rfl, written⟩ := Figure.of_numeralPart? read
  refine ⟨figure, rest, d, rfl, ?_, read, written⟩
  rw [ahead?, numeral_matchThen, read]
  simp

/-- The pattern matches only where a figure starts. -/
theorem ahead?_numeral_eq_none_iff : numeral.ahead? text = none ↔ ¬ FigureAhead text := by
  constructor
  · intro unmatched ahead
    obtain ⟨_, _, _, -, matched, -⟩ := ahead?_numeral ahead
    rw [unmatched] at matched
    contradiction
  · intro absent
    rw [ahead?, numeral_matchThen, numeralPart?_eq_none absent]
    rfl

end Pattern

-----------------------------------------------------------------------------------------
-- First figures
-----------------------------------------------------------------------------------------

variable {text before before' figure figure' rest rest' : List Char} {d d' : Decimal}

/-- The figure that the first digit of a text belongs to. A point right in front of that digit
belongs to the figure too, and no longer figure starts at the same place.
-/
structure LeadingFigure (d : Decimal) (before figure rest : List Char) : Prop where
  digitless : ∀ c ∈ before, isDecimalDigit c = false
  start : before.getLast? = some '.' → figure.head? = some '.'
  written : Figure d figure
  longest : ∀ {other : Decimal} {longer after : List Char}, figure ++ rest = longer ++ after →
    Figure other longer → longer.length ≤ figure.length

/-- The first figure of a text. -/
def FirstFigure (text : List Char) (d : Decimal) (figure : List Char) : Prop :=
  ∃ before rest, text = before ++ (figure ++ rest) ∧ LeadingFigure d before figure rest

/-- A figure starts with a digit, or with a point and a digit behind it. -/
theorem Figure.exists_cons (h : Figure d figure)
    : ∃ c more, figure = c :: more
        ∧ (isDecimalDigit c = true
          ∨ c = '.' ∧ ∃ first ∈ more.head?, isDecimalDigit first = true) := by
  have ahead := h.ahead []
  rw [List.append_nil] at ahead
  unfold FigureAhead at ahead
  split at ahead
  next c more => exact ⟨'.', c :: more, rfl, .inr ⟨rfl, c, rfl, ahead⟩⟩
  next c more _ => exact ⟨c, more, rfl, .inl ahead⟩
  next => exact ahead.elim

/-- A figure is read as its number: it has no sign, and it is none of the words. -/
theorem Figure.ofText?_eq (h : Figure d figure)
    : Double.ofText? figure = some (d.toDouble false) := by
  obtain ⟨c, more, rfl, start⟩ := h.exists_cons
  have other {letter : Char} (noDigit : isDecimalDigit letter = false) (noPoint : letter ≠ '.')
      : c ≠ letter := by
    rintro rfl
    rcases start with digit | ⟨point, -⟩
    · rw [noDigit] at digit
      contradiction
    · exact noPoint point
  have minus : c ≠ '-' := other rfl (by decide)
  have plus : c ≠ '+' := other rfl (by decide)
  have small : c.toLower = c := by
    refine Char.toLower_eq_of_not_isUpper ?_
    rcases start with digit | ⟨rfl, -⟩
    · simp [isDecimalDigit, Char.isUpper, Char.le_def, UInt32.le_iff_toNat_le] at digit ⊢
      omega
    · decide
  have noWord (word : String)
      (front : word.toList.head? = some 'i' ∨ word.toList.head? = some 'n')
      : String.ofList ((c :: more).map Char.toLower) ≠ word := by
    rintro rfl
    rw [String.toList_ofList, List.map_cons, small, List.head?_cons] at front
    rcases front with front | front
    · exact other rfl (by decide) (Option.some.inj front)
    · exact other rfl (by decide) (Option.some.inj front)
  have infinite := noWord "inf" (.inl rfl)
  have infinity := noWord "infinity" (.inl rfl)
  have nan := noWord "nan" (.inr rfl)
  have read := h.numeralPart?_eq
  unfold Double.ofText?
  split
  next negative body sign =>
    obtain ⟨rfl, rfl⟩ : false = negative ∧ c :: more = body := by
      split at sign
      next front => exact absurd (List.cons.inj front).1 minus
      next front => exact absurd (List.cons.inj front).1 plus
      next => exact Prod.mk.inj sign
    simp only [infinite, infinity, nan, read, decide_false, Bool.or_self, Bool.false_eq_true,
      ↓reduceIte]

/-- The first figure does not come after another one. If it did then the first digit would stand in
front of it, or the point in front of that digit.
-/
theorem LeadingFigure.length_le (h : LeadingFigure d before figure rest)
    (h' : LeadingFigure d' before' figure' rest')
    (same : before ++ (figure ++ rest) = before' ++ (figure' ++ rest'))
    : before'.length ≤ before.length := by
  rcases List.append_eq_append_iff.mp same with ⟨more, rfl, meeting⟩ | ⟨more, rfl, -⟩
  · obtain ⟨c, tail, rfl, start⟩ := h.written.exists_cons
    cases more with
    | nil => simp
    | cons c' more =>
        obtain ⟨rfl, behind⟩ := List.cons.inj meeting
        have noDigit := h'.digitless c (by simp)
        rw [noDigit] at start
        obtain ⟨rfl, first, front, digit⟩ := start.resolve_left Bool.false_ne_true
        obtain ⟨tail, rfl⟩ := List.head?_eq_some_iff.mp front
        have noDigit : isDecimalDigit first = false := by
          cases more with
          | nil =>
              obtain ⟨c, more, rfl, -⟩ := h'.written.exists_cons
              obtain rfl := (List.cons.inj behind).1
              obtain rfl := Option.some.inj (h'.start (by simp))
              rfl
          | cons c more =>
              obtain rfl := (List.cons.inj behind).1
              exact h'.digitless first (by simp)
        rw [noDigit] at digit
        contradiction
  · simp

/-- A text has one first figure at most. -/
theorem FirstFigure.unique (h : FirstFigure text d figure) (h' : FirstFigure text d' figure')
    : d = d' ∧ figure = figure' := by
  obtain ⟨before, rest, shape, lead⟩ := h
  obtain ⟨before', rest', shape', lead'⟩ := h'
  have same := shape.symm.trans shape'
  have place : before.length = before'.length :=
    le_antisymm (lead'.length_le lead same.symm) (lead.length_le lead' same)
  obtain ⟨-, behind⟩ := List.append_inj same place
  have size : figure.length = figure'.length :=
    le_antisymm (lead'.longest behind.symm lead.written) (lead.longest behind lead'.written)
  obtain ⟨rfl, -⟩ := List.append_inj behind size
  have read := lead.written.numeralPart?_eq
  rw [lead'.written.numeralPart?_eq] at read
  exact ⟨(Prod.mk.inj (Option.some.inj read)).1.symm, rfl⟩

theorem FirstFigure.written (h : FirstFigure text d figure) : Figure d figure := by
  obtain ⟨_, _, -, lead⟩ := h
  exact lead.written

/-- The first figure of a text has a digit. -/
theorem FirstFigure.not_digitless (h : FirstFigure text d figure)
    : ¬ ∀ c ∈ text, isDecimalDigit c = false := by
  intro digitless
  obtain ⟨before, rest, rfl, lead⟩ := h
  obtain ⟨c, more, rfl, digit | ⟨-, first, front, digit⟩⟩ := lead.written.exists_cons
  · rw [digitless c (by simp)] at digit
    contradiction
  · rw [digitless first (by simp [List.mem_of_mem_head? front])] at digit
    contradiction

/-- A text with a digit has a first figure, and a search for the pattern finds it. -/
theorem Pattern.find?_numeral (text : List Char)
    : (Pattern.numeral.find? text = none ∧ ∀ c ∈ text, isDecimalDigit c = false)
      ∨ ∃ figure d, Pattern.numeral.find? text = some figure ∧ FirstFigure text d figure := by
  have absent {text : List Char} (unmatched : Pattern.numeral.ahead? text = none)
      : ¬ FigureAhead text :=
    Pattern.ahead?_numeral_eq_none_iff.mp unmatched
  rcases Pattern.numeral.find?_spec text with
    ⟨nothing, nowhere⟩ | ⟨before, tail, part, rfl, matched, found, earliest⟩
  · refine .inl ⟨nothing, fun c member => Bool.eq_false_iff.mpr fun digit => ?_⟩
    obtain ⟨left, right, rfl⟩ := List.append_of_mem member
    exact absent (nowhere left _ rfl) (figureAhead_digit digit right)
  · have ahead : FigureAhead tail := by
      by_contra none
      rw [Pattern.ahead?_numeral_eq_none_iff.mpr none] at matched
      contradiction
    obtain ⟨figure, rest, d, rfl, again, read, written⟩ := Pattern.ahead?_numeral ahead
    obtain rfl := Option.some.inj (again.symm.trans matched)
    refine .inr ⟨figure, d, found, before, rest, rfl, ?_, ?_, written, fun same other =>
      other.length_le_of_numeralPart? read same⟩
    · intro c member
      obtain ⟨left, right, rfl⟩ := List.append_of_mem member
      refine Bool.eq_false_iff.mpr fun digit => ?_
      refine absent (earliest left (c :: (right ++ (figure ++ rest))) (by simp) (by simp)) ?_
      exact figureAhead_digit digit _
    · intro point
      obtain ⟨before, rfl⟩ := List.getLast?_eq_some_iff.mp point
      obtain ⟨c, more, rfl, start⟩ := written.exists_cons
      rcases start with digit | ⟨rfl, -⟩
      · have earlier := earliest before ('.' :: (c :: more ++ rest)) (by simp) (by simp)
        exact absurd digit (absent earlier)
      · rfl

/-- The pattern is found where the first figure is, and it matches the whole of it. -/
theorem find?_numeral_iff
    : Pattern.numeral.find? text = some figure ↔ ∃ d, FirstFigure text d figure := by
  rcases Pattern.find?_numeral text with ⟨nothing, digitless⟩ | ⟨found, d, first, place⟩
  · rw [nothing]
    refine ⟨nofun, ?_⟩
    rintro ⟨d, place⟩
    exact absurd digitless place.not_digitless
  · rw [first]
    constructor
    · rintro ⟨⟩
      exact ⟨d, place⟩
    · rintro ⟨other, again⟩
      rw [(place.unique again).2]

example : Pattern.numeral.find? "±..5e+ (1.2.3)".toList = some ".5".toList := by decide

-----------------------------------------------------------------------------------------
-- Spreads
-----------------------------------------------------------------------------------------

variable {range : String}

/-- What is read from an annotation depends on its first figure only. -/
theorem FirstFigure.rangeSpread?_eq (h : FirstFigure (plainRange range) d figure)
    : rangeSpread? range = (some (d.toDouble false)).filter Double.isFinite := by
  rw [rangeSpread?, find?_numeral_iff.mpr ⟨d, h⟩, Option.bind_some, h.written.ofText?_eq]

theorem FirstFigure.rangeSpread?_eq_none (h : FirstFigure (plainRange range) d figure)
    (large : d.TooLarge)
    : rangeSpread? range = none := by
  rcases d.toDouble_nearest with ⟨-, infinite⟩ | ⟨small, -⟩
  · rw [h.rangeSpread?_eq, infinite]
    rfl
  · exact absurd large small

theorem FirstFigure.rangeSpread?_eq_some (h : FirstFigure (plainRange range) d figure)
    (small : ¬ d.TooLarge)
    : rangeSpread? range = some (d.toDouble false) ∧ d.IsNearest (d.toDouble false) := by
  rcases d.toDouble_nearest with ⟨large, -⟩ | ⟨-, nearest⟩
  · exact absurd large small
  · refine ⟨?_, nearest⟩
    obtain ⟨size, finite, -⟩ := nearest
    rw [h.rangeSpread?_eq, finite]
    rfl

theorem rangeSpread?_eq_none_iff
    : rangeSpread? range = none
      ↔ (∀ c ∈ plainRange range, isDecimalDigit c = false)
        ∨ ∃ d figure, FirstFigure (plainRange range) d figure ∧ d.TooLarge := by
  rcases Pattern.find?_numeral (plainRange range) with
    ⟨nothing, digitless⟩ | ⟨figure, d, -, first⟩
  · refine iff_of_true ?_ (.inl digitless)
    rw [rangeSpread?, nothing]
    rfl
  · by_cases large : d.TooLarge
    · exact iff_of_true (first.rangeSpread?_eq_none large) (.inr ⟨d, figure, first, large⟩)
    · refine iff_of_false ?_ ?_
      · rw [(first.rangeSpread?_eq_some large).1]
        nofun
      · rintro (digitless | ⟨other, again, same, beyond⟩)
        · exact first.not_digitless digitless
        · rw [(first.unique same).1] at large
          exact large beyond

theorem rangeSpread?_eq_some_iff {x : Double}
    : rangeSpread? range = some x
      ↔ ∃ d figure, FirstFigure (plainRange range) d figure ∧ ¬ d.TooLarge
          ∧ d.IsNearest x ∧ x = d.toDouble false := by
  constructor
  · intro read
    rcases Pattern.find?_numeral (plainRange range) with ⟨nothing, -⟩ | ⟨figure, d, -, first⟩
    · rw [rangeSpread?, nothing] at read
      contradiction
    · by_cases large : d.TooLarge
      · rw [first.rangeSpread?_eq_none large] at read
        contradiction
      · obtain ⟨value, nearest⟩ := first.rangeSpread?_eq_some large
        obtain rfl := Option.some.inj (value.symm.trans read)
        exact ⟨d, figure, first, large, nearest, rfl⟩
  · rintro ⟨d, figure, first, small, -, rfl⟩
    exact (first.rangeSpread?_eq_some small).1

/-- The spread of a record with a range annotation, without the commas in it. There is none if no
digit is left or if the first figure is too large, and else it is the number that the first figure
is read as, a double that is nearest to it, finite and not below zero. The pattern finds just the
first figure, and every figure is read as a number, whatever it is surrounded by.
-/
theorem Record.spread?_range (r : Record) (range : String)
    : ({ r with range := some range }.spread? = none
        ↔ (∀ c ∈ plainRange range, isDecimalDigit c = false)
          ∨ ∃ d figure, FirstFigure (plainRange range) d figure ∧ d.TooLarge)
      ∧ (∀ x, { r with range := some range }.spread? = some x
        ↔ ∃ d figure, FirstFigure (plainRange range) d figure ∧ ¬ d.TooLarge
            ∧ d.IsNearest x ∧ x = d.toDouble false)
      ∧ (∀ x, { r with range := some range }.spread? = some x → x.isFiniteNonnegative = true)
      ∧ (∀ figure, Pattern.numeral.find? (plainRange range) = some figure
        ↔ ∃ d, FirstFigure (plainRange range) d figure)
      ∧ ∀ d figure, FirstFigure (plainRange range) d figure →
          Double.ofText? figure = some (d.toDouble false) := by
  refine ⟨rangeSpread?_eq_none_iff, fun x => rangeSpread?_eq_some_iff, fun x read => ?_,
    fun figure => find?_numeral_iff, fun d figure first => first.written.ofText?_eq⟩
  obtain ⟨d, figure, -, -, ⟨size, rfl, -⟩, -⟩ := rangeSpread?_eq_some_iff.mp read
  rfl

end PerfLedger
