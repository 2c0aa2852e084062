import PerfLedger.Settings.Value

/-!
Values in TOML that have no parts. Numbers, truth values and dates are written without quotes,
so that each is one token.
-/

namespace PerfLedger.Toml

/-- The digits of a text in which single underscores may stand between digits. -/
def groupedDigits? (isDigit : Char → Bool) (text : List Char) : Option (List Char) :=
  let groups := text.splitOn '_'
  if groups.all fun group => !group.isEmpty && group.all isDigit then some groups.flatten
  else none

/-- The digits of a whole decimal number, which has no zeros in front. -/
def wholeDigits? (text : List Char) : Option (List Char) :=
  match text with
  | ['0'] => some ['0']
  | '0' :: _ => none
  | _ => groupedDigits? isDecimalDigit text

/-- A text without its sign, and whether that was a minus sign. -/
def unsigned : List Char → Bool × List Char
  | '-' :: rest => (true, rest)
  | '+' :: rest => (false, rest)
  | text => (false, text)

/-- The number written by digits of a base, most significant first. -/
def natOfBase? (base : Nat) (text : List Char) : Option Nat := do
  let digits ← groupedDigits? (fun c => ((hexDigit? c).filter (· < base)).isSome) text
  return digits.foldl (fun value c => value * base + (hexDigit? c).getD 0) 0
where
  hexDigit? (c : Char) : Option Nat :=
    if isDecimalDigit c then some (c.toNat - '0'.toNat)
    else if 'a' ≤ c.toLower && c.toLower ≤ 'f' then some (c.toLower.toNat - 'a'.toNat + 10)
    else none

/-- The integer written by a token. -/
def intOfToken? (token : List Char) : Option Int := do
  let value : Int ←
    match token with
    | '0' :: 'x' :: digits => (natOfBase? 16 digits).map Int.ofNat
    | '0' :: 'o' :: digits => (natOfBase? 8 digits).map Int.ofNat
    | '0' :: 'b' :: digits => (natOfBase? 2 digits).map Int.ofNat
    | token => do
        let (negative, body) := unsigned token
        let size : Int := natOfDigits (← wholeDigits? body)
        pure (if negative then -size else size)
  if -(2 ^ 63) ≤ value ∧ value < 2 ^ 63 then some value else none

/-- The value of an exponent part, or zero where there is none. -/
def exponentOf? : List Char → Option Int
  | [] => some 0
  | letter :: rest => do
      if letter ≠ 'e' && letter ≠ 'E' then none
      let (negative, digits) := unsigned rest
      let size : Int := natOfDigits (← groupedDigits? isDecimalDigit digits)
      return if negative then -size else size

/-- The double written by a token: with a point or an exponent, or by name. Numbers past the
greatest double are refused.
-/
def doubleOfToken? (token : List Char) : Option Double := do
  let (negative, body) := unsigned token
  if body = "inf".toList then return .infinite negative
  if body = "nan".toList then return .nan
  let isMark (c : Char) : Bool := c = '.' || c = 'e' || c = 'E'
  if !body.any isMark then none
  let whole ← wholeDigits? (body.takeWhile fun c => !isMark c)
  let (fraction, tail) ←
    match body.dropWhile fun c => !isMark c with
    | '.' :: rest => do
        let fraction ← groupedDigits? isDecimalDigit (rest.takeWhile fun c => !isMark c)
        pure (fraction, rest.dropWhile fun c => !isMark c)
    | tail => pure ([], tail)
  let value := (Decimal.ofParts whole fraction (← exponentOf? tail)).toDouble negative
  if value = .infinite false then none else some value

/-- The number in the next digits of a text, of which there are exactly as many. -/
def fixedNat? (count : Nat) (text : List Char) : Option (Nat × List Char) :=
  let digits := text.take count
  if digits.length = count && digits.all isDecimalDigit then
    some (natOfDigits digits, text.drop count)
  else
    none

/-- What follows a character at the start of a text. -/
def after? (c : Char) : List Char → Option (List Char)
  | first :: rest => if first = c then some rest else none
  | [] => none

/-- Days of a month. -/
def daysInMonth (year month : Nat) : Nat :=
  if month = 2 then
    if year % 4 = 0 && (year % 100 ≠ 0 || year % 400 = 0) then 29 else 28
  else if month = 4 || month = 6 || month = 9 || month = 11 then 30
  else 31

/-- Takes a date off a text: its characters, and what follows them. -/
def takeDate? (text : List Char) : Option (List Char × List Char) := do
  let (year, rest) ← fixedNat? 4 text
  let (month, rest) ← fixedNat? 2 (← after? '-' rest)
  let (day, rest) ← fixedNat? 2 (← after? '-' rest)
  if 1 ≤ month && month ≤ 12 && 1 ≤ day && day ≤ daysInMonth year month then
    return (text.take 10, rest)
  else
    none

/-- Takes a time of day off a text: its characters, with nine decimals of a second at most and
none that are zeros at the end, and what follows it.
-/
def takeTime? (text : List Char) : Option (List Char × List Char) := do
  let (hour, rest) ← fixedNat? 2 text
  let (minute, rest) ← fixedNat? 2 (← after? ':' rest)
  let (second, rest) ← fixedNat? 2 (← after? ':' rest)
  if 23 < hour || 59 < minute || 60 < second then none
  match rest with
  | '.' :: more =>
      let decimals := more.takeWhile isDecimalDigit
      if decimals.isEmpty then none
      let kept := ((decimals.take 9).reverse.dropWhile (· == '0')).reverse
      let point := if kept.isEmpty then [] else ['.']
      return (text.take 8 ++ point ++ kept, more.dropWhile isDecimalDigit)
  | rest => return (text.take 8, rest)

/-- The characters of an offset from universal time, which is a whole text. -/
def offset? (text : List Char) : Option (List Char) :=
  match text with
  | [] => some []
  | ['Z'] => some ['Z']
  | ['z'] => some ['Z']
  | sign :: digits => do
      if sign ≠ '+' && sign ≠ '-' then none
      let (hour, rest) ← fixedNat? 2 digits
      let (minute, rest) ← fixedNat? 2 (← after? ':' rest)
      if 23 < hour || 59 < minute || !rest.isEmpty then none
      let unsignedZero := hour = 0 && minute = 0
      return (if unsignedZero then '+' else sign) :: digits

/-- The text of the date, time or both that a whole text writes. -/
def dateOf? (text : List Char) : Option String :=
  match takeDate? text with
  | some (date, []) => some (String.ofList date)
  | some (date, mark :: rest) => do
      if mark ≠ 'T' && mark ≠ 't' && mark ≠ ' ' then none
      let (time, rest) ← takeTime? rest
      return String.ofList (date ++ 'T' :: time ++ (← offset? rest))
  | none =>
      match takeTime? text with
      | some (time, []) => some (String.ofList time)
      | _ => none

/-- A character of a token. -/
def isTokenChar (c : Char) : Bool :=
  c.isAlphanum || c = '_' || c = '+' || c = '-' || c = '.' || c = ':'

/-- Takes a token off a text. A space inside of a date is part of it. -/
def takeToken (text : List Char) : List Char × List Char :=
  let token := text.takeWhile isTokenChar
  match takeDate? token, text.dropWhile isTokenChar with
  | some (_, []), ' ' :: digit :: rest =>
      if isDecimalDigit digit then
        (token ++ ' ' :: (digit :: rest).takeWhile isTokenChar,
          (digit :: rest).dropWhile isTokenChar)
      else
        (token, ' ' :: digit :: rest)
  | _, rest => (token, rest)

/-- A value without parts. A date is its text, apart from a text in quotes. -/
inductive Scalar where
  | text (value : String)
  | int (value : Int)
  | real (value : Double)
  | bool (value : Bool)
  | date (value : String)
  deriving DecidableEq

namespace Scalar

/-- The setting that a value stands for; a date only counts as the text of it. -/
def setting : Scalar → Setting
  | text value => .text value
  | int value => .int value
  | real value => .real value
  | bool value => .bool value
  | date value => .text value

/-- The value of a token. -/
def ofToken? (token : List Char) : Option Scalar :=
  if token = "true".toList then some (bool true)
  else if token = "false".toList then some (bool false)
  else
    ((intOfToken? token).map int)
    <|> ((doubleOfToken? token).map real)
    <|> ((dateOf? token).map date)

end Scalar

end PerfLedger.Toml
