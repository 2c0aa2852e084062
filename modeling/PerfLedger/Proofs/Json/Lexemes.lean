import PerfLedger.Proofs.Json.Tokens

/-! The lexical grammar of JSON: the words of tokens, with space between them. A text that is
written by this grammar has just those tokens, and every text without a broken token is written
by it.
-/

namespace PerfLedger

-----------------------------------------------------------------------------------------
-- Words and space
-----------------------------------------------------------------------------------------

/-- Nothing but space of JSON. -/
def IsSpace (text : List Char) : Prop := ∀ c ∈ text, isJsonSpace c = true

/-- The texts of some tokens, with any space between them. A number ends where nothing follows
that it would take in.
-/
inductive Lexes : List Token → List Char → Prop where
  | last {token : Token} {word : List Char} (lexeme : Lexeme token word) : Lexes [token] word
  | next {token : Token} {tokens : List Token} {word space text : List Char}
      (lexeme : Lexeme token word) (blank : IsSpace space)
      (apart : token.IsNumber → EndsNumber (space ++ text)) (rest : Lexes tokens text)
      : Lexes (token :: tokens) (word ++ (space ++ text))

/-- A text has the tokens that it is written in, by induction on them. -/
theorem Lexes.tokens_eq {found : List Token} {text : List Char} (h : Lexes found text)
    : tokens text = found := by
  induction h with
  | @last token word lexeme =>
      have first := lexeme.nextToken?_eq fun _ => endsNumber_nil
      rw [List.append_nil] at first
      rw [tokens_of_next first]
      rfl
  | next lexeme blank apart _ ih =>
      rw [tokens_of_next (lexeme.nextToken?_eq apart), tokens_space _ blank, ih]

-----------------------------------------------------------------------------------------
-- Words that were read
-----------------------------------------------------------------------------------------

/-- The pieces of a text with a closing quote are written inside of it. -/
theorem Pieces.of_scanUnits {units : List TextUnit} {text rest : List Char}
    (scanned : scanUnits text = (units, .closed rest))
    : ∃ inside, text = inside ++ '"' :: rest ∧ Pieces units inside := by
  fun_induction scanUnits text generalizing units rest with
  | case2 after =>
      cases scanned
      exact ⟨[], rfl, .nil⟩
  | case4 letter _ _ known _ _ inner _ ih =>
      cases scanned
      obtain ⟨inside, rfl, pieces⟩ := ih inner
      exact ⟨'\\' :: letter :: inside, rfl, .letter known pieces⟩
  | case5 h1 h2 h3 h4 _ _ known _ _ inner _ _ ih =>
      cases scanned
      obtain ⟨inside, rfl, pieces⟩ := ih inner
      exact ⟨'\\' :: 'u' :: h1 :: h2 :: h3 :: h4 :: inside, rfl, .number known pieces⟩
  | case11 c _ quote slash printable _ _ inner ih =>
      cases scanned
      obtain ⟨inside, rfl, pieces⟩ := ih inner
      exact ⟨c :: inside, rfl, .plain quote slash printable pieces⟩
  | _ => cases scanned

/-- A text that can be read or skipped is a word of its token. -/
theorem Lexeme.of_textToken {text rest : List Char} {token : Token} (whole : token.IsWhole)
    (read : textToken text = (token, rest))
    : ∃ inside, text = inside ++ '"' :: rest ∧ Lexeme token ('"' :: (inside ++ ['"']))
        ∧ ¬ token.IsNumber := by
  unfold textToken at read
  split at read
  next units after scanned =>
    split at read
    next value spelt =>
      cases read
      obtain ⟨inside, rfl, pieces⟩ := Pieces.of_scanUnits scanned
      exact ⟨inside, rfl, .text pieces spelt, id⟩
    next unspelt =>
      cases read
      obtain ⟨inside, rfl, pieces⟩ := Pieces.of_scanUnits scanned
      exact ⟨inside, rfl, .unpairedText pieces unspelt, id⟩
  next =>
    split at read
    all_goals
      cases read
      contradiction

/-- The digits at the head of a text, and what follows them. -/
theorem exists_digits (text : List Char)
    : ∃ digits rest, text = digits ++ rest ∧ text.takeWhile isDecimalDigit = digits
        ∧ text.dropWhile isDecimalDigit = rest ∧ AllDigits digits ∧ NoDigitAhead rest := by
  refine ⟨_, _, List.takeWhile_append_dropWhile.symm, rfl, rfl, ?_, ?_⟩
  · exact fun c member => List.mem_takeWhile_imp member
  · intro c front
    have stop := List.head?_dropWhile_not isDecimalDigit text
    rw [Option.mem_def.mp front] at stop
    simpa using stop

/-- An exponent that is read is written as one. -/
theorem Exponent.of_exponentPart? {text rest : List Char} {exponent : Int}
    (read : exponentPart? text = some (exponent, rest))
    : ∃ scale, text = scale ++ rest ∧ Exponent (some exponent) scale ∧ NoDigitAhead rest := by
  revert read
  fun_cases exponentPart? text with
  | case2 letter after marked negative text parts written nonempty size =>
      intro read
      cases read
      obtain ⟨sign, rfl, signed⟩ : ∃ sign, after = sign ++ text ∧ ExponentSign negative sign := by
        split at parts <;> cases parts
        · exact ⟨['-'], rfl, .minus⟩
        · exact ⟨['+'], rfl, .plus⟩
        · exact ⟨[], rfl, .absent⟩
      obtain ⟨digits, rest, rfl, taken, dropped, all, stop⟩ := exists_digits text
      have nonempty : digits ≠ [] := by simpa [written, taken] using nonempty
      have value : size = natOfDigits digits := by simp only [size, written, taken]
      rw [value, dropped]
      refine ⟨letter :: (sign ++ digits), by simp, ?_, stop⟩
      exact .power (by simpa using marked) signed all nonempty
  | _ => nofun

/-- What follows the digits of a number is its exponent, or does not belong to it. -/
theorem Exponent.of_exponentToken {negative : Bool} {whole text rest : List Char}
    {fraction : Option (List Char)} {token : Token} (isWhole : token.IsWhole)
    (stop : NoDigitAhead text)
    (read : exponentToken negative whole fraction text = (token, rest))
    : ∃ exponent scale, text = scale ++ rest ∧ Exponent exponent scale
        ∧ token = numberValue (numeralValue negative whole fraction exponent)
        ∧ NoDigitAhead rest := by
  have plain (read : exponentToken.plain negative whole fraction text = (token, rest))
      : ∃ exponent scale, text = scale ++ rest ∧ Exponent exponent scale
          ∧ token = numberValue (numeralValue negative whole fraction exponent)
          ∧ NoDigitAhead rest := by
    refine ⟨none, [], ?_⟩
    cases fraction
    all_goals
      cases read
      exact ⟨rfl, .absent, rfl, stop⟩
  unfold exponentToken at read
  split at read
  next letter after =>
    split at read
    next =>
      split at read
      next exponent following part =>
        cases read
        obtain ⟨scale, parts, scaled, stop⟩ := Exponent.of_exponentPart? part
        refine ⟨some exponent, scale, parts, scaled, ?_, stop⟩
        cases fraction <;> rfl
      next =>
        split at read
        all_goals
          cases read
          contradiction
    next => exact plain read
  next => exact plain read

/-- A number that is read is written as one. -/
theorem Numeral.of_numberToken {negative : Bool} {text rest : List Char} {token : Token}
    (isWhole : token.IsWhole) (read : numberToken negative text = (token, rest))
    : ∃ value digits, text = digits ++ rest ∧ Numeral negative value digits
        ∧ token = numberValue value ∧ NoDigitAhead rest := by
  obtain ⟨whole, after, rfl, taken, dropped, all, stop⟩ := exists_digits text
  unfold numberToken at read
  rw [taken, dropped] at read
  dsimp only at read
  split at read
  next =>
    cases read
    contradiction
  next first more =>
    split at read
    next =>
      cases read
      contradiction
    next single =>
      have integer : WholePart (first :: more) := by
        refine ⟨all, List.cons_ne_nil _ _, fun front => ?_⟩
        obtain rfl : first = '0' := Option.some.inj front
        simpa using single
      split at read
      next tail =>
        split at read
        next =>
          cases read
          contradiction
        next nonempty =>
          obtain ⟨digits, after, rfl, taken, dropped, all, stop⟩ := exists_digits tail
          rw [taken] at read nonempty
          rw [dropped] at read
          obtain ⟨exponent, scale, rfl, scaled, rfl, stop⟩ :=
            Exponent.of_exponentToken isWhole stop read
          have fractional : Fraction (some digits) ('.' :: digits) :=
            .digits all (by simpa using nonempty)
          exact ⟨_, _, by simp, .parts integer fractional scaled, rfl, stop⟩
      next =>
        obtain ⟨exponent, scale, rfl, scaled, rfl, stop⟩ :=
          Exponent.of_exponentToken isWhole stop read
        exact ⟨_, _, by simp, .parts integer .absent scaled, rfl, stop⟩

theorem wordToken_eq {value token : Token} {expected text rest : List Char}
    (isWhole : token.IsWhole) (read : wordToken value expected text = (token, rest))
    : token = value ∧ text = expected ++ rest := by
  fun_induction wordToken value expected text with
  | case1 =>
      cases read
      exact ⟨rfl, rfl⟩
  | case3 expected more text ih =>
      obtain ⟨same, parts⟩ := ih read
      exact ⟨same, congrArg _ parts⟩
  | _ =>
      cases read
      contradiction

/-- A token that is no fault stands for a word, after some space. -/
theorem Lexeme.of_nextToken? {text rest : List Char} {token : Token} (isWhole : token.IsWhole)
    (next : nextToken? text = some (token, rest))
    : ∃ space word, text = space ++ (word ++ rest) ∧ IsSpace space ∧ Lexeme token word
        ∧ (token.IsNumber → NoDigitAhead rest) := by
  unfold nextToken? at next
  split at next
  next => contradiction
  next c after start =>
    suffices ∃ word, c :: after = word ++ rest ∧ Lexeme token word
        ∧ (token.IsNumber → NoDigitAhead rest) by
      obtain ⟨word, parts, found⟩ := this
      refine ⟨text.takeWhile isJsonSpace, word, ?_, fun c => List.mem_takeWhile_imp, found⟩
      rw [← parts, ← start, List.takeWhile_append_dropWhile]
    have read := Option.some.inj next
    -- The characters that stand alone come first.
    iterate 6
      rcases ite_eq_iff.mp read with ⟨rfl, read⟩ | ⟨-, read⟩
      · cases read
        exact ⟨[_], rfl, .punctuation rfl, False.elim⟩
    rcases ite_eq_iff.mp read with ⟨rfl, read⟩ | ⟨-, read⟩
    · obtain ⟨inside, rfl, lexeme, other⟩ := Lexeme.of_textToken isWhole read
      exact ⟨_, by simp, lexeme, fun number => absurd number other⟩
    rcases ite_eq_iff.mp read with ⟨rfl, read⟩ | ⟨-, read⟩
    · obtain ⟨rfl, rfl⟩ := wordToken_eq isWhole read
      exact ⟨_, rfl, .null, False.elim⟩
    rcases ite_eq_iff.mp read with ⟨rfl, read⟩ | ⟨-, read⟩
    · obtain ⟨rfl, rfl⟩ := wordToken_eq isWhole read
      exact ⟨_, rfl, .bool true, False.elim⟩
    rcases ite_eq_iff.mp read with ⟨rfl, read⟩ | ⟨-, read⟩
    · obtain ⟨rfl, rfl⟩ := wordToken_eq isWhole read
      exact ⟨_, rfl, .bool false, False.elim⟩
    rcases ite_eq_iff.mp read with ⟨rfl, read⟩ | ⟨-, read⟩
    · obtain ⟨value, digits, rfl, numeral, rfl, stop⟩ := Numeral.of_numberToken isWhole read
      exact ⟨_, rfl, @Lexeme.number true _ _ numeral, fun _ => stop⟩
    rcases ite_eq_iff.mp read with ⟨-, read⟩ | ⟨-, read⟩
    · obtain ⟨value, digits, parts, numeral, rfl, stop⟩ := Numeral.of_numberToken isWhole read
      exact ⟨_, parts, @Lexeme.number false _ _ numeral, fun _ => stop⟩
    · cases read
      contradiction

theorem EndsNumber.of_append {left right : List Char} (h : EndsNumber (left ++ right))
    : EndsNumber left := by
  intro c front
  refine h c ?_
  rw [List.head?_append, Option.mem_def.mp front]
  rfl

/-- No word starts with what would only make a number longer. -/
theorem endsNumber_of_tokens {text : List Char} (digit : NoDigitAhead text)
    (unbroken : ∀ token ∈ tokens text, token.IsWhole)
    : EndsNumber text := by
  intro c front
  obtain ⟨rest, rfl⟩ : ∃ rest, text = c :: rest := ⟨_, List.eq_cons_of_mem_head? front⟩
  have other (broken : nextToken? (c :: rest) = some (.broken .misplaced, [])) : False := by
    rw [tokens_of_next broken] at unbroken
    exact unbroken _ List.mem_cons_self
  refine ⟨digit c rfl, ?_, ?_, ?_⟩
  all_goals
    rintro rfl
    exact other rfl

/-- A text without tokens is nothing but space. -/
theorem isSpace_of_tokens {text : List Char} (nothing : tokens text = []) : IsSpace text := by
  cases next : nextToken? text with
  | some found =>
      rw [tokens_of_next next] at nothing
      contradiction
  | none =>
      unfold nextToken? at next
      split at next
      next start => exact List.dropWhile_eq_nil_iff.mp start
      next => contradiction

/-- A text without a broken token is written in its tokens, with space around them. -/
theorem exists_lexes {text : List Char} (unbroken : ∀ token ∈ tokens text, token.IsWhole)
    (nonempty : tokens text ≠ [])
    : ∃ before inside after, text = before ++ (inside ++ after) ∧ IsSpace before
        ∧ Lexes (tokens text) inside ∧ IsSpace after := by
  induction size : text.length using Nat.strong_induction_on generalizing text with
  | _ size ih =>
      cases next : nextToken? text with
      | none => exact absurd (tokens_of_none next) nonempty
      | some found =>
          obtain ⟨token, rest⟩ := found
          have shorter := nextToken?_length next
          rw [tokens_of_next next] at unbroken ⊢
          obtain ⟨isWhole, unbroken⟩ := List.forall_mem_cons.mp unbroken
          obtain ⟨before, word, rfl, blank, lexeme, stop⟩ := Lexeme.of_nextToken? isWhole next
          by_cases finished : tokens rest = []
          · rw [finished]
            exact ⟨before, word, rest, rfl, blank, .last lexeme, isSpace_of_tokens finished⟩
          · obtain ⟨space, inside, after, rfl, blank', lexes, blank''⟩ :=
              ih rest.length (size ▸ shorter) unbroken finished rfl
            refine ⟨before, word ++ (space ++ inside), after, by simp, blank, ?_, blank''⟩
            refine .next lexeme blank' (fun number => ?_) lexes
            have ends := endsNumber_of_tokens (stop number) unbroken
            rw [← List.append_assoc] at ends
            exact ends.of_append

-----------------------------------------------------------------------------------------
-- Texts one after the other
-----------------------------------------------------------------------------------------

theorem Lexeme.ne_nil {token : Token} {word : List Char} (h : Lexeme token word) : word ≠ [] := by
  rintro rfl
  exact nomatch h.nextToken?_eq fun _ => endsNumber_nil

theorem Lexes.ne_nil {found : List Token} {text : List Char} (h : Lexes found text)
    : found ≠ [] ∧ text ≠ [] := by
  cases h with
  | last lexeme => exact ⟨List.cons_ne_nil _ _, lexeme.ne_nil⟩
  | next lexeme =>
      exact ⟨List.cons_ne_nil _ _, List.append_ne_nil_of_left_ne_nil lexeme.ne_nil _⟩

/-- What a number ends at is seen in the first character. -/
theorem EndsNumber.append {left : List Char} (h : EndsNumber left) (nonempty : left ≠ [])
    (right : List Char)
    : EndsNumber (left ++ right) := by
  rwa [EndsNumber, List.head?_append_of_ne_nil _ nonempty]

/-- A number ends at space. -/
theorem EndsNumber.space_append {space text : List Char} (blank : IsSpace space)
    (h : EndsNumber text)
    : EndsNumber (space ++ text) := by
  cases space with
  | nil => exact h
  | cons c space =>
      intro other front
      obtain rfl := Option.some.inj front
      have blank := blank c List.mem_cons_self
      simp only [isJsonSpace, Bool.or_eq_true, beq_iff_eq] at blank
      rcases blank with ((rfl | rfl) | rfl) | rfl <;> decide

/-- The tokens of a text come before those of what follows it, by induction on them. Only a number
at the end has to be told from what follows.
-/
theorem Lexes.tokens_append {found : List Token} {text : List Char} (h : Lexes found text)
    {rest : List Char} (apart : ∀ token ∈ found.getLast?, token.IsNumber → EndsNumber rest)
    : tokens (text ++ rest) = found ++ tokens rest := by
  induction h with
  | last lexeme => exact lexeme.tokens_eq (apart _ rfl)
  | @next token found word space text lexeme blank stop lexes ih =>
      rw [List.getLast?_cons_of_ne_nil lexes.ne_nil.1] at apart
      have nonempty : space ++ text ≠ [] := List.append_ne_nil_of_right_ne_nil _ lexes.ne_nil.2
      have stop (number : token.IsNumber) : EndsNumber (space ++ (text ++ rest)) := by
        have longer := (stop number).append nonempty rest
        rwa [List.append_assoc] at longer
      rw [List.append_assoc, List.append_assoc, lexeme.tokens_eq stop, tokens_space _ blank,
        ih apart, List.cons_append]

/-- The tokens of two texts, one after the other. -/
theorem tokens_append {found : List Token} {left right : List Char} (read : tokens left = found)
    (unbroken : ∀ token ∈ found, token.IsWhole)
    (apart : ∀ token ∈ found.getLast?, token.IsNumber → EndsNumber right)
    : tokens (left ++ right) = found ++ tokens right := by
  subst read
  by_cases nothing : tokens left = []
  · rw [nothing, tokens_space right (isSpace_of_tokens nothing), List.nil_append]
  · obtain ⟨before, inside, after, parts, blank, lexes, blank'⟩ := exists_lexes unbroken nothing
    have stop (token : Token) (last : token ∈ (tokens left).getLast?) (number : token.IsNumber) :=
      (apart token last number).space_append blank'
    conv_lhs => rw [parts, List.append_assoc, List.append_assoc]
    rw [tokens_space _ blank, lexes.tokens_append stop, tokens_space _ blank']

end PerfLedger
