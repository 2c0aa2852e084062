import PerfLedger.Proofs.Json.Lexemes

/-! Figures: numerals without a sign, in the loose form in which people write them. The longest
figure at the start of a text is what is read there, and a text that is a figure is read as a
whole.
-/

namespace PerfLedger

-----------------------------------------------------------------------------------------
-- Figures
-----------------------------------------------------------------------------------------

/-- A figure: digits, which may go on with a point and further digits, or a point with digits
behind it, and either with an optional exponent.
-/
inductive Figure : Decimal → List Char → Prop where
  | whole {digits scale : List Char} {exponent : Option Int} (all : AllDigits digits)
      (nonempty : digits ≠ []) (scaled : Exponent exponent scale)
      : Figure (.ofParts digits [] (exponent.getD 0)) (digits ++ scale)
  | point {digits fraction scale : List Char} {exponent : Option Int} (all : AllDigits digits)
      (behind : AllDigits fraction) (nonempty : digits ≠ [] ∨ fraction ≠ [])
      (scaled : Exponent exponent scale)
      : Figure (.ofParts digits fraction (exponent.getD 0))
          (digits ++ '.' :: (fraction ++ scale))

/-- A figure starts here: with a digit, or with a point in front of one. -/
def FigureAhead : List Char → Prop
  | '.' :: c :: _ => isDecimalDigit c = true
  | c :: _ => isDecimalDigit c = true
  | [] => False

theorem figureAhead_digit {c : Char} (digit : isDecimalDigit c = true) (rest : List Char)
    : FigureAhead (c :: rest) := by
  have noPoint : c ≠ '.' := by
    rintro rfl
    contradiction
  unfold FigureAhead
  split
  next shape => exact absurd (List.cons.inj shape).1 noPoint
  next shape => exact (List.cons.inj shape).1 ▸ digit
  next shape => cases shape

theorem figureAhead_digits {digits : List Char} (all : AllDigits digits)
    (nonempty : digits ≠ []) (rest : List Char)
    : FigureAhead (digits ++ rest) := by
  obtain ⟨c, more, rfl⟩ := List.exists_cons_of_ne_nil nonempty
  exact figureAhead_digit (all c List.mem_cons_self) (more ++ rest)

theorem figureAhead_point {digits fraction : List Char} (all : AllDigits digits)
    (behind : AllDigits fraction) (nonempty : digits ≠ [] ∨ fraction ≠ []) (rest : List Char)
    : FigureAhead (digits ++ '.' :: (fraction ++ rest)) := by
  by_cases empty : digits = []
  · obtain ⟨c, more, rfl⟩ :=
      List.exists_cons_of_ne_nil (nonempty.resolve_left (not_not_intro empty))
    rw [empty]
    exact behind c List.mem_cons_self
  · exact figureAhead_digits all empty _

/-- A figure is one wherever it stands. -/
theorem Figure.ahead {d : Decimal} {figure : List Char} (h : Figure d figure)
    (rest : List Char)
    : FigureAhead (figure ++ rest) := by
  cases h with
  | whole all nonempty scaled =>
      rw [List.append_assoc]
      exact figureAhead_digits all nonempty _
  | point all behind nonempty scaled =>
      rw [List.append_assoc, List.cons_append, List.append_assoc]
      exact figureAhead_point all behind nonempty _

-----------------------------------------------------------------------------------------
-- Reading figures
-----------------------------------------------------------------------------------------

/-- The decimal of some digits and the exponent at the start of a text, and what follows it. -/
def scaledBy (digits fraction text : List Char) : Decimal × List Char :=
  match exponentPart? text with
  | some (exponent, rest) => (.ofParts digits fraction exponent, rest)
  | none => (.ofParts digits fraction 0, text)

variable {digits fraction scale text rest : List Char} {exponent : Option Int} {d : Decimal}

theorem numeralPart?_whole (all : AllDigits digits) (nonempty : digits ≠ [])
    (stop : NoDigitAhead rest) (noPoint : ∀ c ∈ rest.head?, c ≠ '.')
    : numeralPart? (digits ++ rest) = some (scaledBy digits [] rest) := by
  have some_digit : (digits.isEmpty && true) = false := by simp [nonempty]
  unfold numeralPart? scaledBy
  simp only [all.takeWhile_append stop, all.dropWhile_append stop]
  split
  next point => exact absurd rfl (noPoint '.' (by simp))
  next =>
    simp only [List.isEmpty_nil, some_digit, Bool.false_eq_true, ↓reduceIte]
    cases exponentPart? rest <;> rfl

theorem numeralPart?_point (all : AllDigits digits) (behind : AllDigits fraction)
    (nonempty : digits ≠ [] ∨ fraction ≠ []) (stop : NoDigitAhead rest)
    : numeralPart? (digits ++ '.' :: (fraction ++ rest))
      = some (scaledBy digits fraction rest) := by
  have pointAhead := noDigitAhead_point (fraction ++ rest)
  have some_digit : (digits.isEmpty && fraction.isEmpty) = false := by
    rcases nonempty with some | some <;> simp [some]
  unfold numeralPart? scaledBy
  simp only [all.takeWhile_append pointAhead, all.dropWhile_append pointAhead,
    behind.takeWhile_append stop, behind.dropWhile_append stop, some_digit, Bool.false_eq_true,
    ↓reduceIte]
  cases exponentPart? rest <;> rfl

/-- Every text starts with a figure without a point, with one that has a point, or with none. -/
inductive Start (text : List Char) : Prop where
  | whole {digits rest : List Char} (shape : text = digits ++ rest) (all : AllDigits digits)
      (nonempty : digits ≠ []) (stop : NoDigitAhead rest)
      (noPoint : ∀ c ∈ rest.head?, c ≠ '.')
  | point {digits fraction rest : List Char} (shape : text = digits ++ '.' :: (fraction ++ rest))
      (all : AllDigits digits) (behind : AllDigits fraction)
      (nonempty : digits ≠ [] ∨ fraction ≠ []) (stop : NoDigitAhead rest)
  | none (absent : ¬ FigureAhead text)

theorem start_text (text : List Char) : Start text := by
  obtain ⟨digits, after, rfl, -, -, all, stop⟩ := exists_digits text
  by_cases point : ∃ rest, after = '.' :: rest
  · obtain ⟨rest, rfl⟩ := point
    obtain ⟨fraction, rest, rfl, -, -, behind, ended⟩ := exists_digits rest
    by_cases nonempty : digits ≠ [] ∨ fraction ≠ []
    · exact .point rfl all behind nonempty ended
    · obtain ⟨rfl, rfl⟩ : digits = [] ∧ fraction = [] := by simpa using nonempty
      refine .none fun ahead => ?_
      cases rest with
      | nil => exact absurd ahead (by simp [FigureAhead, isDecimalDigit])
      | cons c rest =>
          have digit : isDecimalDigit c = true := ahead
          exact absurd digit (Bool.eq_false_iff.mp (ended c rfl))
  · have noPoint : ∀ c ∈ after.head?, c ≠ '.' := by
      rintro c front rfl
      obtain ⟨rest, rfl⟩ := List.head?_eq_some_iff.mp front
      exact point ⟨rest, rfl⟩
    by_cases nonempty : digits = []
    · subst nonempty
      refine .none fun ahead => ?_
      cases after with
      | nil => exact ahead
      | cons c rest =>
          unfold FigureAhead at ahead
          split at ahead
          next shape => exact noPoint c rfl (List.cons.inj shape).1
          next shape =>
            obtain rfl := (List.cons.inj shape).1
            exact absurd ahead (Bool.eq_false_iff.mp (stop c rfl))
          next => exact ahead
    · exact .whole rfl all nonempty stop noPoint

/-- Nothing is read where no figure starts. -/
theorem numeralPart?_eq_none (absent : ¬ FigureAhead text) : numeralPart? text = none := by
  obtain ⟨digits, after, rfl, taken, dropped, all, stop⟩ := exists_digits text
  have empty : digits = [] := by
    by_contra nonempty
    exact absent (figureAhead_digits all nonempty after)
  subst empty
  unfold numeralPart?
  simp only [taken, dropped]
  split
  next behind =>
    cases behind with
    | nil => rfl
    | cons c behind =>
        have noDigit : isDecimalDigit c = false := Bool.eq_false_iff.mpr fun digit => absent digit
        simp [noDigit]
  next => rfl

/-- What is read is a figure, and it is written in front of what is left. -/
theorem Figure.of_numeralPart? (read : numeralPart? text = some (d, rest))
    : ∃ figure, text = figure ++ rest ∧ Figure d figure := by
  have scaled {digits fraction text rest : List Char} {d : Decimal}
      (read : scaledBy digits fraction text = (d, rest))
      : ∃ exponent scale, text = scale ++ rest ∧ Exponent exponent scale
          ∧ d = .ofParts digits fraction (exponent.getD 0) := by
    unfold scaledBy at read
    split at read
    next exponent after part =>
      cases read
      obtain ⟨scale, rfl, power, -⟩ := Exponent.of_exponentPart? part
      exact ⟨some exponent, scale, rfl, power, rfl⟩
    next =>
      cases read
      exact ⟨none, [], rfl, .absent, rfl⟩
  cases start_text text with
  | whole shape all nonempty stop noPoint =>
      subst shape
      rw [numeralPart?_whole all nonempty stop noPoint] at read
      obtain ⟨exponent, scale, rfl, power, rfl⟩ := scaled (Option.some.inj read)
      exact ⟨_, (List.append_assoc ..).symm, .whole all nonempty power⟩
  | point shape all behind nonempty stop =>
      subst shape
      rw [numeralPart?_point all behind nonempty stop] at read
      obtain ⟨exponent, scale, rfl, power, rfl⟩ := scaled (Option.some.inj read)
      exact ⟨_, by simp, .point all behind nonempty power⟩
  | none absent =>
      rw [numeralPart?_eq_none absent] at read
      contradiction

/-- An exponent is read to its end at least. -/
theorem Exponent.scaledBy_length (h : Exponent exponent scale) (digits fraction rest : List Char)
    : (scaledBy digits fraction (scale ++ rest)).2.length ≤ rest.length := by
  cases h with
  | absent =>
      unfold scaledBy
      split
      next part => exact exponentPart?_length part
      next => exact Nat.le_refl _
  | @power letter negative sign power marked signed all nonempty =>
      obtain ⟨more, rest, rfl, -, -, further, stop⟩ := exists_digits rest
      have read := exponentPart?_power marked signed (all.append further)
        (List.append_ne_nil_of_left_ne_nil nonempty more) stop
      have parts : letter :: (sign ++ power) ++ (more ++ rest)
          = letter :: (sign ++ (power ++ more) ++ rest) := by
        simp
      rw [scaledBy, parts, read, List.length_append]
      exact Nat.le_add_left ..

theorem Exponent.scaledBy_eq (h : Exponent exponent scale) (digits fraction : List Char)
    : scaledBy digits fraction scale = (.ofParts digits fraction (exponent.getD 0), []) := by
  cases h with
  | absent => rfl
  | power marked signed all nonempty =>
      have read := exponentPart?_power marked signed all nonempty noDigitAhead_nil
      rw [List.append_nil] at read
      rw [scaledBy, read]
      rfl

/-- What follows a run of digits is not longer than what follows a part of them. -/
theorem AllDigits.length_le {digits run rest after : List Char} (all : AllDigits digits)
    (stop : NoDigitAhead after) (same : digits ++ rest = run ++ after)
    : after.length ≤ rest.length := by
  rcases List.append_eq_append_iff.mp same with ⟨more, rfl, rfl⟩ | ⟨more, rfl, rfl⟩
  · rw [List.length_append]
    exact Nat.le_add_left ..
  · cases more with
    | nil => exact Nat.le_refl _
    | cons c more =>
        have digit := all c (by simp)
        rw [stop c rfl] at digit
        contradiction

theorem Exponent.head_of_ne_nil (h : Exponent exponent scale) (present : scale ≠ [])
    (rest : List Char)
    : ∀ c ∈ (scale ++ rest).head?, isDecimalDigit c = false ∧ c ≠ '.' := by
  cases h with
  | absent => exact absurd rfl present
  | power marked =>
      intro c front
      obtain rfl := Option.some.inj front
      rcases marked with rfl | rfl <;> decide

/-- What is read at the start of a text is at least as long as any figure there. -/
theorem Figure.numeralPart?_length {figure : List Char} (h : Figure d figure) (rest : List Char)
    : ∃ found after, numeralPart? (figure ++ rest) = some (found, after)
        ∧ after.length ≤ rest.length := by
  have scaled {digits fraction text : List Char} (fits : text.length ≤ rest.length)
      : (scaledBy digits fraction text).2.length ≤ rest.length :=
    (Exponent.absent.scaledBy_length digits fraction text).trans fits
  cases h with
  | @whole digits scale exponent all nonempty power =>
      rw [List.append_assoc]
      by_cases present : scale = []
      · subst present
        cases start_text (digits ++ ([] ++ rest)) with
        | whole shape run some stop noPoint =>
            rw [shape, numeralPart?_whole run some stop noPoint]
            exact ⟨_, _, rfl, scaled (all.length_le stop shape)⟩
        | point shape run behind some stop =>
            rw [shape, numeralPart?_point run behind some stop]
            refine ⟨_, _, rfl, scaled ?_⟩
            have shorter := all.length_le (noDigitAhead_point _) shape
            simp at shorter
            omega
        | none absent => exact absurd (figureAhead_digits all nonempty _) absent
      · have head := power.head_of_ne_nil present rest
        rw [numeralPart?_whole all nonempty (fun c front => (head c front).1)
          (fun c front => (head c front).2)]
        exact ⟨_, _, rfl, power.scaledBy_length digits [] rest⟩
  | @point digits fraction scale exponent all behind nonempty power =>
      have parts : digits ++ '.' :: (fraction ++ scale) ++ rest
          = digits ++ '.' :: (fraction ++ (scale ++ rest)) := by
        simp
      rw [parts]
      by_cases present : scale = []
      · subst present
        obtain ⟨more, after, rfl, -, -, further, stop⟩ := exists_digits rest
        have joined : fraction ++ ([] ++ (more ++ after)) = fraction ++ more ++ after := by simp
        rw [joined, numeralPart?_point all (behind.append further)
          (nonempty.imp_right fun some => List.append_ne_nil_of_left_ne_nil some more) stop]
        exact ⟨_, _, rfl, scaled (by simp)⟩
      · have head := power.head_of_ne_nil present rest
        rw [numeralPart?_point all behind nonempty (fun c front => (head c front).1)]
        exact ⟨_, _, rfl, power.scaledBy_length digits fraction rest⟩

/-- A text that is a figure is read as a whole. -/
theorem Figure.numeralPart?_eq {figure : List Char} (h : Figure d figure)
    : numeralPart? figure = some (d, []) := by
  cases h with
  | @whole digits scale exponent all nonempty power =>
      have head := power.head endsNumber_nil
      rw [List.append_nil] at head
      rw [numeralPart?_whole all nonempty (fun c front => (head c front).1)
        (fun c front => (head c front).2), power.scaledBy_eq]
  | @point digits fraction scale exponent all behind nonempty power =>
      have head := power.head endsNumber_nil
      rw [List.append_nil] at head
      rw [numeralPart?_point all behind nonempty (fun c front => (head c front).1),
        power.scaledBy_eq]

/-- What is read at the start of a text is the longest figure there. -/
theorem Figure.length_le_of_numeralPart? {figure longer rest after : List Char} {d' : Decimal}
    (read : numeralPart? (figure ++ rest) = some (d, rest)) (h : Figure d' longer)
    (same : figure ++ rest = longer ++ after)
    : longer.length ≤ figure.length := by
  obtain ⟨found, left, again, fits⟩ := h.numeralPart?_length after
  rw [← same, read] at again
  cases again
  have total := congrArg List.length same
  rw [List.length_append, List.length_append] at total
  omega

end PerfLedger
