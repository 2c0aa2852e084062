import PerfLedger.Json.Value

/-!
Tokens of JSON text. A text that is not JSON still has the tokens before its first fault, so
that a reader meets the problems of a document in the order in which they stand.
-/

namespace PerfLedger

-----------------------------------------------------------------------------------------
-- Faults
-----------------------------------------------------------------------------------------

/-- How a text fails to be JSON: it ends too early, or something wrong stands in it. -/
inductive Fault where
  | truncated
  | malformed
  deriving DecidableEq, Repr, Inhabited

/-- A place where no value can be read. Some lexemes are judged by different rules when
their value is needed and when they are only skipped.
-/
inductive Break where
  /-- The text ends where a value should start. -/
  | endOfText
  /-- Something stands here that no value starts with. -/
  | misplaced
  /-- A misspelt or unfinished `null`, `true` or `false`. -/
  | word (fault : Fault)
  /-- An unfinished or malformed number. -/
  | number (fault : Fault)
  /-- An unfinished or malformed text, when it is read and when it is skipped. -/
  | text (read skipped : Fault)
  deriving DecidableEq, Repr, Inhabited

namespace Break

/-- The fault met by a reader that needs the value. -/
def whenRead : Break → Fault
  | endOfText => .truncated
  | misplaced => .malformed
  | word fault => fault
  | number fault => fault
  | text read _ => read

/-- The fault met by a reader that skips the value. -/
def whenSkipped : Break → Fault
  | endOfText => .truncated
  | misplaced => .malformed
  | word fault => fault
  | number _ => .malformed
  | text _ skipped => skipped

/-- The fault met by a reader that accepts nothing but a text here. -/
def whenNamed : Break → Fault
  | endOfText => .truncated
  | text read _ => read
  | _ => .malformed

/-- The fault met by a reader that skips a text and accepts nothing else here. -/
def whenNameSkipped : Break → Fault
  | endOfText => .truncated
  | text _ skipped => skipped
  | _ => .malformed

end Break

/-- A token. The last three are no values of their own: a text and a number that can be
skipped but not read, and the place where the tokens end for good.
-/
inductive Token where
  | beginObject
  | endObject
  | beginArray
  | endArray
  | colon
  | comma
  | null
  | bool (value : Bool)
  | number (value : JsonNumber)
  | text (value : String)
  /-- A text whose escapes leave half of a surrogate pair. -/
  | unpairedText
  /-- A number beyond the range of the doubles. -/
  | hugeNumber
  | broken (place : Break)
  deriving DecidableEq, Inhabited

-----------------------------------------------------------------------------------------
-- Texts
-----------------------------------------------------------------------------------------

/-- One piece of a quoted text: a character, or a 16-bit unit given by its number. -/
inductive TextUnit where
  | char (c : Char)
  | unit (code : Nat)
  deriving DecidableEq, Repr

/-- How a quoted text ends: with its quote, before the rest, or at a fault. -/
inductive TextEnd where
  | closed (rest : List Char)
  | cut (fault : Fault)
  deriving DecidableEq, Repr

/-- The value of a hexadecimal digit. -/
def hexValue? (c : Char) : Option Nat :=
  if '0' ≤ c ∧ c ≤ '9' then some (c.toNat - '0'.toNat)
  else if 'a' ≤ c ∧ c ≤ 'f' then some (c.toNat - 'a'.toNat + 10)
  else if 'A' ≤ c ∧ c ≤ 'F' then some (c.toNat - 'A'.toNat + 10)
  else none

/-- The number written by four hexadecimal digits. -/
def hexUnit? (a b c d : Char) : Option Nat := do
  let a ← hexValue? a
  let b ← hexValue? b
  let c ← hexValue? c
  let d ← hexValue? d
  return ((a * 16 + b) * 16 + c) * 16 + d

/-- The character of a one-letter escape. -/
def simpleEscape? (c : Char) : Option Char :=
  if c = '"' then some '"'
  else if c = '\\' then some '\\'
  else if c = '/' then some '/'
  else if c = 'b' then some '\x08'
  else if c = 'f' then some '\x0c'
  else if c = 'n' then some '\n'
  else if c = 'r' then some '\r'
  else if c = 't' then some '\t'
  else none

/-- Number of bytes of a text. -/
def byteLength (text : List Char) : Nat := (text.flatMap String.utf8EncodeChar).length

/-- The pieces of a text after its opening quote. An escape by number takes the next four
bytes: if there are fewer, the text ends too early.
-/
def scanUnits : List Char → List TextUnit × TextEnd
  | [] => ([], .cut .truncated)
  | c :: rest =>
      if c = '"' then ([], .closed rest)
      else if c = '\\' then
        match rest with
        | [] => ([], .cut .truncated)
        | letter :: rest =>
            match simpleEscape? letter with
            | some value =>
                let (units, ending) := scanUnits rest
                (.char value :: units, ending)
            | none =>
                if letter = 'u' then
                  match rest with
                  | h1 :: h2 :: h3 :: h4 :: rest =>
                      match hexUnit? h1 h2 h3 h4 with
                      | some code =>
                          let (units, ending) := scanUnits rest
                          (.unit code :: units, ending)
                      | none => ([], .cut .malformed)
                  | short =>
                      if byteLength short < 4 then ([], .cut .truncated)
                      else ([], .cut .malformed)
                else ([], .cut .malformed)
      else if c.toNat < 0x20 then ([], .cut .malformed)
      else
        let (units, ending) := scanUnits rest
        (.char c :: units, ending)

/-- A 16-bit unit that opens a surrogate pair. -/
def isLeadingSurrogate (code : Nat) : Bool := 0xD800 ≤ code && code ≤ 0xDBFF

/-- A 16-bit unit that closes a surrogate pair. -/
def isTrailingSurrogate (code : Nat) : Bool := 0xDC00 ≤ code && code ≤ 0xDFFF

/-- The character of a surrogate pair. -/
def pairedChar (leading trailing : Nat) : Char :=
  Char.ofNat (0x10000 + (leading - 0xD800) * 0x400 + (trailing - 0xDC00))

/-- What the pieces of a text spell. `pending` is a leading surrogate at the very end, whose
partner may be missing only because the text was cut.
-/
inductive Spelling where
  | chars (value : List Char)
  | pending
  | unpaired
  deriving DecidableEq, Repr

/-- A spelling with one more character in front. -/
def Spelling.cons (c : Char) : Spelling → Spelling
  | chars value => chars (c :: value)
  | other => other

/-- Puts surrogate pairs together. -/
def spell : List TextUnit → Spelling
  | [] => .chars []
  | .char c :: rest => (spell rest).cons c
  | .unit code :: rest =>
      if isTrailingSurrogate code then .unpaired
      else if isLeadingSurrogate code then
        match rest with
        | [] => .pending
        | .unit trailing :: rest =>
            if isTrailingSurrogate trailing then (spell rest).cons (pairedChar code trailing)
            else .unpaired
        | .char _ :: _ => .unpaired
      else (spell rest).cons (Char.ofNat code)

/-- The token of a text after its opening quote, and what follows it. -/
def textToken (text : List Char) : Token × List Char :=
  match scanUnits text with
  | (units, .closed rest) =>
      match spell units with
      | .chars value => (.text (String.ofList value), rest)
      | _ => (.unpairedText, rest)
  | (units, .cut fault) =>
      match spell units with
      | .unpaired => (.broken (.text .malformed fault), [])
      | _ => (.broken (.text fault fault), [])

-----------------------------------------------------------------------------------------
-- Numbers
-----------------------------------------------------------------------------------------

/-- The value of a number without fraction and exponent. Integers of 64 bits stay integers;
a minus sign makes zero a double, which alone has a negative zero.
-/
def wholeNumber (negative : Bool) (digits : List Char) : JsonNumber :=
  let n := natOfDigits digits
  let signed : Int := if negative then -(n : Int) else n
  if (negative && n == 0) || signed < JsonNumber.leastInt || JsonNumber.greatestInt < signed
  then
    .real ((⟨n, 0⟩ : Decimal).toDouble negative)
  else
    .int signed

/-- The token of a number; beyond the range of the doubles there is none to read. -/
def numberValue : JsonNumber → Token
  | .real value => if value.isFinite then .number (.real value) else .hugeNumber
  | .int value => .number (.int value)

/-- A broken number: unfinished at the end of the text, malformed anywhere else. -/
def brokenNumber (rest : List Char) : Token × List Char :=
  (.broken (.number (if rest.isEmpty then .truncated else .malformed)), [])

/-- The part of a number after its integer and fraction digits. -/
def exponentToken (negative : Bool) (whole : List Char) (fraction : Option (List Char))
    (text : List Char)
    : Token × List Char :=
  match text with
  | letter :: rest =>
      if letter = 'e' || letter = 'E' then
        match exponentPart? text with
        | some (exponent, after) =>
            let decimal := Decimal.ofParts whole (fraction.getD []) exponent
            (numberValue (.real (decimal.toDouble negative)), after)
        | none =>
            match rest with
            | sign :: digits =>
                brokenNumber (if sign = '+' || sign = '-' then digits else rest)
            | [] => brokenNumber []
      else plain
  | [] => plain
where
  plain : Token × List Char :=
    match fraction with
    | some fraction =>
        (numberValue (.real ((Decimal.ofParts whole fraction 0).toDouble negative)), text)
    | none => (numberValue (wholeNumber negative whole), text)

/-- The token of a number after its sign, and what follows it. A leading zero stands alone,
and digits follow a point and an exponent letter.
-/
def numberToken (negative : Bool) (text : List Char) : Token × List Char :=
  let whole := text.takeWhile isDecimalDigit
  let rest := text.dropWhile isDecimalDigit
  match whole with
  | [] => brokenNumber rest
  | first :: more =>
      if first = '0' && !more.isEmpty then (.broken (.number .malformed), [])
      else
        match rest with
        | '.' :: rest =>
            let fraction := rest.takeWhile isDecimalDigit
            let rest := rest.dropWhile isDecimalDigit
            if fraction.isEmpty then brokenNumber rest
            else exponentToken negative whole (some fraction) rest
        | _ => exponentToken negative whole none rest

-----------------------------------------------------------------------------------------
-- Tokens of a text
-----------------------------------------------------------------------------------------

/-- The characters that may stand between tokens. -/
def isJsonSpace (c : Char) : Bool := c == ' ' || c == '\n' || c == '\t' || c == '\r'

/-- The token of a fixed word, after its first letter. -/
def wordToken (value : Token) : List Char → List Char → Token × List Char
  | [], rest => (value, rest)
  | _ :: _, [] => (.broken (.word .truncated), [])
  | expected :: more, c :: rest =>
      if c = expected then wordToken value more rest
      else (.broken (.word .malformed), [])

/-- The first token of a text, and what follows it. -/
def nextToken? (text : List Char) : Option (Token × List Char) :=
  match text.dropWhile isJsonSpace with
  | [] => none
  | c :: rest =>
      some <|
        if c = '{' then (.beginObject, rest)
        else if c = '}' then (.endObject, rest)
        else if c = '[' then (.beginArray, rest)
        else if c = ']' then (.endArray, rest)
        else if c = ':' then (.colon, rest)
        else if c = ',' then (.comma, rest)
        else if c = '"' then textToken rest
        else if c = 'n' then wordToken .null ['u', 'l', 'l'] rest
        else if c = 't' then wordToken (.bool true) ['r', 'u', 'e'] rest
        else if c = 'f' then wordToken (.bool false) ['a', 'l', 's', 'e'] rest
        else if c = '-' then numberToken true rest
        else if isDecimalDigit c then numberToken false (c :: rest)
        else (.broken .misplaced, [])

/-- The first `fuel` tokens of a text. -/
def tokensFrom : Nat → List Char → List Token
  | 0, _ => []
  | fuel + 1, text =>
      match nextToken? text with
      | none => []
      | some (token, rest) => token :: tokensFrom fuel rest

/-- All tokens of a text. Every token takes a character, so there are no more of them. -/
def tokens (text : List Char) : List Token := tokensFrom text.length text

end PerfLedger
