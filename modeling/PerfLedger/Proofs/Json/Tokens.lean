import Mathlib.Data.List.TakeWhile
import PerfLedger.Proofs.Json.NumberTokens
import PerfLedger.Proofs.Json.TextTokens

/-! The tokens of a text, one at a time. Every token takes a character, so the fuel of the
lexer is never used up, and the token of a word is followed by those of the rest.
-/

namespace PerfLedger

-----------------------------------------------------------------------------------------
-- Progress
-----------------------------------------------------------------------------------------

theorem scanUnits_length {text rest : List Char} (closed : (scanUnits text).2 = .closed rest)
    : rest.length < text.length := by
  fun_induction scanUnits text generalizing rest with
  | case2 after =>
      obtain rfl := TextEnd.closed.inj closed
      simp
  | case4 _ after _ _ _ _ scanned _ ih =>
      have shorter : rest.length < after.length := ih (by rw [scanned]; exact closed)
      simp only [List.length_cons]
      omega
  | case5 _ _ _ _ after _ _ _ _ scanned _ _ ih =>
      have shorter : rest.length < after.length := ih (by rw [scanned]; exact closed)
      simp only [List.length_cons]
      omega
  | case11 _ after _ _ _ _ _ scanned ih =>
      have shorter : rest.length < after.length := ih (by rw [scanned]; exact closed)
      simp only [List.length_cons]
      omega
  | _ => cases closed

theorem textToken_length (text : List Char) : (textToken text).2.length ≤ text.length := by
  unfold textToken
  cases scanned : scanUnits text with
  | mk units ending =>
      cases ending with
      | closed rest =>
          have shorter : rest.length < text.length := scanUnits_length (by rw [scanned])
          dsimp only
          split <;> exact shorter.le
      | cut fault =>
          dsimp only
          split <;> exact Nat.zero_le _

theorem wordToken_length (value : Token) (expected text : List Char)
    : (wordToken value expected text).2.length ≤ text.length := by
  fun_induction wordToken value expected text with
  | case1 => exact Nat.le_refl _
  | case2 => exact Nat.le_refl _
  | case3 _ _ _ ih => exact Nat.le_succ_of_le ih
  | case4 => exact Nat.zero_le _

theorem exponentPart?_length {text rest : List Char} {exponent : Int}
    (read : exponentPart? text = some (exponent, rest))
    : rest.length ≤ text.length := by
  have dropped := List.length_dropWhile_le isDecimalDigit
  unfold exponentPart? at read
  grind

theorem exponentToken_length (negative : Bool) (whole : List Char)
    (fraction : Option (List Char)) (text : List Char)
    : (exponentToken negative whole fraction text).2.length ≤ text.length := by
  have plain (text : List Char)
      : (exponentToken.plain negative whole fraction text).2.length ≤ text.length := by
    unfold exponentToken.plain
    split <;> exact Nat.le_refl _
  unfold exponentToken
  cases text with
  | nil => exact plain []
  | cons letter rest =>
      dsimp only
      split
      · cases read : exponentPart? (letter :: rest) with
        | some result => exact exponentPart?_length read
        | none => cases rest <;> exact Nat.zero_le _
      · exact plain _

theorem numberToken_length (negative : Bool) (text : List Char)
    : (numberToken negative text).2.length ≤ text.length - 1 := by
  have parts : (text.takeWhile isDecimalDigit ++ text.dropWhile isDecimalDigit).length
      = text.length := by
    rw [List.takeWhile_append_dropWhile]
  have dropped := List.length_dropWhile_le isDecimalDigit
  unfold numberToken
  cases whole : text.takeWhile isDecimalDigit with
  | nil => exact Nat.zero_le _
  | cons first more =>
      rw [whole] at parts
      dsimp only
      split
      · exact Nat.zero_le _
      · rw [List.length_append, List.length_cons] at parts
        split
        next rest point =>
          rw [point, List.length_cons] at parts
          have fraction := dropped rest
          split
          · exact Nat.zero_le _
          · refine (exponentToken_length _ _ _ _).trans ?_
            omega
        next =>
          refine (exponentToken_length _ _ _ _).trans ?_
          omega

/-- Every token takes a character. -/
theorem nextToken?_length {text rest : List Char} {token : Token}
    (next : nextToken? text = some (token, rest))
    : rest.length < text.length := by
  have dropped := List.length_dropWhile_le isJsonSpace text
  unfold nextToken? at next
  cases shape : text.dropWhile isJsonSpace with
  | nil =>
    rw [shape] at next
    contradiction
  | cons c after =>
      rw [shape] at next dropped
      have result := congrArg Prod.snd (Option.some.inj next)
      dsimp only at result
      subst result
      refine Nat.lt_of_lt_of_le (Nat.lt_succ_of_le ?_) dropped
      have number : (numberToken true after).2.length ≤ after.length :=
        (numberToken_length true after).trans (Nat.sub_le _ _)
      have either {condition : Prop} [Decidable condition] {yes no : Token × List Char}
          (hy : yes.2.length ≤ after.length) (hn : no.2.length ≤ after.length)
          : (if condition then yes else no).2.length ≤ after.length := by
        split <;> assumption
      repeat' refine either ?_ ?_
      all_goals
        first
        | exact Nat.le_refl _
        | exact Nat.zero_le _
        | exact textToken_length after
        | exact wordToken_length _ _ after
        | exact number
        | exact numberToken_length false (c :: after)

-----------------------------------------------------------------------------------------
-- One token after the other
-----------------------------------------------------------------------------------------

/-- More fuel than characters gives no more tokens, by induction on the fuel. -/
theorem tokensFrom_congr {text : List Char} {fuel other : Nat} (enough : text.length ≤ fuel)
    (enough' : text.length ≤ other)
    : tokensFrom fuel text = tokensFrom other text := by
  induction fuel generalizing text other with
  | zero =>
      obtain rfl := List.eq_nil_of_length_eq_zero (Nat.le_zero.mp enough)
      cases other <;> rfl
  | succ fuel ih =>
      cases other with
      | zero =>
          obtain rfl := List.eq_nil_of_length_eq_zero (Nat.le_zero.mp enough')
          rfl
      | succ other =>
          unfold tokensFrom
          cases next : nextToken? text with
          | none => rfl
          | some result =>
              have shorter := nextToken?_length next
              have same : tokensFrom fuel result.2 = tokensFrom other result.2 :=
                ih (by omega) (by omega)
              exact congrArg (result.1 :: ·) same

/-- A text without a first token has none. -/
theorem tokens_of_none {text : List Char} (next : nextToken? text = none)
    : tokens text = [] := by
  unfold tokens
  cases text.length with
  | zero => rfl
  | succ fuel =>
      unfold tokensFrom
      rw [next]

/-- The first token of a text is followed by those of what is left of it. -/
theorem tokens_of_next {text rest : List Char} {token : Token}
    (next : nextToken? text = some (token, rest))
    : tokens text = token :: tokens rest := by
  have shorter := nextToken?_length next
  unfold tokens
  obtain ⟨fuel, size⟩ : ∃ fuel, text.length = fuel + 1 := ⟨text.length - 1, by omega⟩
  rw [size, tokensFrom, next]
  dsimp only
  rw [tokensFrom_congr (show rest.length ≤ fuel by omega) (Nat.le_refl _)]

/-- Space in front of a text is skipped. -/
theorem tokens_space {space : List Char} (text : List Char)
    (blank : ∀ c ∈ space, isJsonSpace c = true)
    : tokens (space ++ text) = tokens text := by
  have next : nextToken? (space ++ text) = nextToken? text := by
    unfold nextToken?
    rw [List.dropWhile_append_of_pos blank]
  cases found : nextToken? text with
  | none => rw [tokens_of_none found, tokens_of_none (next.trans found)]
  | some result => rw [tokens_of_next found, tokens_of_next (next.trans found)]

-----------------------------------------------------------------------------------------
-- Words
-----------------------------------------------------------------------------------------

/-- The token of a character that always stands alone. -/
def punctuation? (c : Char) : Option Token :=
  [('{', Token.beginObject), ('}', .endObject), ('[', .beginArray), (']', .endArray),
    (':', .colon), (',', .comma)].lookup c

/-- The words of each token that is not broken. -/
inductive Lexeme : Token → List Char → Prop where
  | punctuation {c : Char} {token : Token} (known : punctuation? c = some token)
      : Lexeme token [c]
  | null : Lexeme .null "null".toList
  | bool (value : Bool) : Lexeme (.bool value) (printBool value)
  | text {units : List TextUnit} {inside value : List Char} (pieces : Pieces units inside)
      (spelt : spell units = .chars value)
      : Lexeme (.text (String.ofList value)) ('"' :: (inside ++ ['"']))
  | unpairedText {units : List TextUnit} {inside : List Char} (pieces : Pieces units inside)
      (unspelt : ∀ value, spell units ≠ .chars value)
      : Lexeme .unpairedText ('"' :: (inside ++ ['"']))
  | number {negative : Bool} {value : JsonNumber} {digits : List Char}
      (numeral : Numeral negative value digits)
      : Lexeme (numberValue value) (signText negative ++ digits)

/-- A token that is no fault. -/
def Token.IsWhole : Token → Prop
  | .broken _ => False
  | _ => True

/-- A token that more digits would change. -/
def Token.IsNumber : Token → Prop
  | .number _ => True
  | .hugeNumber => True
  | _ => False

theorem numberValue_isNumber (value : JsonNumber) : (numberValue value).IsNumber := by
  cases value with
  | int value => trivial
  | real value =>
      unfold numberValue
      dsimp only
      split <;> trivial

theorem Token.IsNumber.isWhole {token : Token} (h : token.IsNumber) : token.IsWhole := by
  cases token <;> trivial

-----------------------------------------------------------------------------------------
-- Reading words
-----------------------------------------------------------------------------------------

/-- A character that always stands alone is one token. -/
theorem nextToken?_punctuation {c : Char} {token : Token} (known : punctuation? c = some token)
    (rest : List Char)
    : nextToken? (c :: rest) = some (token, rest) := by
  unfold punctuation? at known
  simp only [List.lookup_cons, List.lookup_nil] at known
  repeat' split at known
  all_goals cases known
  all_goals
    next same =>
      rw [eq_of_beq same]
      rfl

theorem tokens_punctuation (c : Char) {token : Token} (known : punctuation? c = some token)
    (rest : List Char)
    : tokens (c :: rest) = token :: tokens rest :=
  tokens_of_next (nextToken?_punctuation known rest)

theorem nextToken?_pieces {units : List TextUnit} {inside : List Char}
    (pieces : Pieces units inside) (rest : List Char)
    : nextToken? ('"' :: (inside ++ ['"']) ++ rest)
      = some
          (match spell units with
            | .chars value => .text (String.ofList value)
            | _ => .unpairedText, rest) := by
  have read := pieces.scanUnits_eq rest
  have shape : '"' :: (inside ++ ['"']) ++ rest = '"' :: (inside ++ '"' :: rest) := by simp
  rw [shape]
  refine congrArg some ?_
  unfold textToken
  simp only [read]
  cases spell units <;> rfl

/-- A number is read after its sign, or from its first digit. -/
theorem nextToken?_number {negative : Bool} {text rest : List Char} {token : Token}
    (whole : token.IsWhole) (read : numberToken negative text = (token, rest))
    : nextToken? (signText negative ++ text) = some (token, rest) := by
  cases negative with
  | true => exact congrArg some read
  | false =>
      cases text with
      | nil =>
          cases read
          contradiction
      | cons c text =>
          by_cases digit : isDecimalDigit c = true
          · have other (special : Char) (letter : isDecimalDigit special = false)
                : c ≠ special := by
              intro same
              subst same
              exact absurd digit (by simp [letter])
            have space : isJsonSpace c = false := by
              simp [isJsonSpace, other ' ' rfl, other '\n' rfl, other '\t' rfl, other '\r' rfl]
            simp [nextToken?, signText, space, digit, read, other '{' rfl, other '}' rfl,
              other '[' rfl, other ']' rfl, other ':' rfl, other ',' rfl, other '"' rfl,
              other 'n' rfl, other 't' rfl, other 'f' rfl, other '-' rfl]
          · simp only [numberToken, List.takeWhile_cons, digit, Bool.false_eq_true,
              ↓reduceIte] at read
            cases read
            contradiction

/-- A word is the first token of a text that starts with it. -/
theorem Lexeme.nextToken?_eq {token : Token} {word : List Char} (h : Lexeme token word)
    {rest : List Char} (apart : token.IsNumber → EndsNumber rest)
    : nextToken? (word ++ rest) = some (token, rest) := by
  cases h with
  | punctuation known => exact nextToken?_punctuation known rest
  | null => rfl
  | bool value => cases value <;> rfl
  | text pieces spelt => rw [nextToken?_pieces pieces, spelt]
  | @unpairedText units _ pieces unspelt =>
      rw [nextToken?_pieces pieces]
      cases spelling : spell units with
      | chars value => exact absurd spelling (unspelt value)
      | pending => rfl
      | unpaired => rfl
  | @number _ value _ numeral =>
      have number := numberValue_isNumber value
      rw [List.append_assoc]
      exact nextToken?_number number.isWhole (numeral.numberToken_eq (apart number))

theorem Lexeme.tokens_eq {token : Token} {word : List Char} (h : Lexeme token word)
    {rest : List Char} (apart : token.IsNumber → EndsNumber rest)
    : tokens (word ++ rest) = token :: tokens rest :=
  tokens_of_next (h.nextToken?_eq apart)

-----------------------------------------------------------------------------------------
-- Printed words
-----------------------------------------------------------------------------------------

theorem lexeme_quoted (s : String) : Lexeme (.text s) (quoted s) := by
  have lexeme := Lexeme.text (pieces_escaped s.toList) (spell_map_pieceOf s.toList)
  rwa [String.ofList_toList] at lexeme

/-- The numbers that a document can hold: integers in range and finite doubles. -/
def JsonNumber.Readable : JsonNumber → Prop
  | int value => InRange value
  | real value => value.isFinite

/-- A number is one word. -/
theorem JsonNumber.Readable.lexeme {value : JsonNumber} (readable : value.Readable)
    : Lexeme (.number value) value.print := by
  cases value with
  | int value =>
      have word := Lexeme.number (numeral_natDigits readable)
      have shape : intDigits value = signText (value < 0) ++ natDigits value.natAbs := by
        unfold intDigits signText
        split <;> simp_all
      rwa [← shape] at word
  | real value =>
      cases value with
      | nan => contradiction
      | infinite negative => contradiction
      | finite negative size => exact .number (numeral_documentDigits negative size)

end PerfLedger
