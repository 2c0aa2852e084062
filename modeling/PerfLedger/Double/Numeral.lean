import PerfLedger.Double.Basic

/-!
Reading decimal numerals. A numeral denotes `digits * 10 ^ exponent`, and its double is the
nearest one, whatever the number of digits.
-/

namespace PerfLedger

/-- An ASCII decimal digit. -/
def isDecimalDigit (c : Char) : Bool := '0' ≤ c && c ≤ '9'

/-- The number written by decimal digits, most significant first. -/
def natOfDigits (digits : List Char) : Nat :=
  digits.foldl (fun value c => value * 10 + (c.toNat - '0'.toNat)) 0

/-- A nonnegative decimal number `digits * 10 ^ exponent`. -/
structure Decimal where
  digits : Nat
  exponent : Int
  deriving DecidableEq, Repr, Inhabited

namespace Decimal

/-- The decimal written by digits before and after a point, times a power of ten. -/
def ofParts (whole fraction : List Char) (exponent : Int) : Decimal :=
  ⟨natOfDigits (whole ++ fraction), exponent - fraction.length⟩

/-- Numerator and denominator of the decimal, counted in units. -/
def quotient (d : Decimal) : Nat × Nat :=
  if d.exponent < 0 then
    (d.digits * unitsPerOne, 10 ^ d.exponent.natAbs)
  else
    (d.digits * 10 ^ d.exponent.natAbs * unitsPerOne, 1)

/-- Exponents from here on make any nonzero number overflow. -/
def exponentLimit : Nat := 400

/-- The double nearest to a decimal of the given sign. Exponents far outside the range of
the doubles are settled without writing the number out: it is then beyond `10 ^ 400`, or
below `10 ^ -400` since `digits < 2 ^ (log2 digits + 1)`.
-/
def toDouble (negative : Bool) (d : Decimal) : Double :=
  if d.digits = 0 then .zero negative
  else if (exponentLimit : Int) < d.exponent then .infinite negative
  else if d.exponent + (d.digits.log2 + 1 + exponentLimit : Nat) < 0 then .zero negative
  else .ofQuotient negative d.quotient.1 d.quotient.2

end Decimal

/-- An exponent part at the head of a text: its value, and what follows it. A letter with
no digit after it is no exponent.
-/
def exponentPart? : List Char → Option (Int × List Char)
  | letter :: rest =>
      if letter = 'e' || letter = 'E' then
        let (negative, digits) :=
          match rest with
          | '-' :: digits => (true, digits)
          | '+' :: digits => (false, digits)
          | digits => (false, digits)
        let written := digits.takeWhile isDecimalDigit
        if written.isEmpty then none
        else
          let size : Int := natOfDigits written
          some (if negative then -size else size, digits.dropWhile isDecimalDigit)
      else none
  | [] => none

/-- The longest numeral at the head of a text: digits with an optional point among or after
them, or a point followed by digits, and then an optional exponent.
-/
def numeralPart? (text : List Char) : Option (Decimal × List Char) :=
  let whole := text.takeWhile isDecimalDigit
  let afterWhole := text.dropWhile isDecimalDigit
  let (fraction, afterFraction) :=
    match afterWhole with
    | '.' :: rest => (rest.takeWhile isDecimalDigit, rest.dropWhile isDecimalDigit)
    | _ => ([], afterWhole)
  if whole.isEmpty && fraction.isEmpty then none
  else
    match exponentPart? afterFraction with
    | some (exponent, rest) => some (.ofParts whole fraction exponent, rest)
    | none => some (.ofParts whole fraction 0, afterFraction)

/-- The double named by a whole text: a numeral, `inf`, `infinity` or `nan` in any case of
letters, with an optional sign in front.
-/
def Double.ofText? (text : List Char) : Option Double :=
  let (negative, body) :=
    match text with
    | '-' :: rest => (true, rest)
    | '+' :: rest => (false, rest)
    | rest => (false, rest)
  let word := String.ofList (body.map Char.toLower)
  if word = "inf" || word = "infinity" then some (.infinite negative)
  else if word = "nan" then some .nan
  else
    match numeralPart? body with
    | some (decimal, []) => some (decimal.toDouble negative)
    | _ => none

end PerfLedger
