import PerfLedger.Double.Shortest

/-!
Texts of doubles. All layouts but the fixed one write the shortest digits; they differ in
when an exponent is used and whether whole numbers keep a point.
-/

namespace PerfLedger

/-- Decimal digits of a natural number. -/
def natDigits (n : Nat) : List Char := Nat.toDigits 10 n

/-- Decimal digits of an integer, after a minus sign if it is negative. -/
def intDigits (n : Int) : List Char :=
  if n < 0 then '-' :: natDigits n.natAbs else natDigits n.natAbs

namespace Decimal

/-- The exponent of the first digit, as written in scientific form. -/
def scientificExponent (d : Decimal) : Int := (natDigits d.digits).length - 1 + d.exponent

/-- Positional text without an exponent. `wholeTail` follows a number with no fraction. -/
def positional (wholeTail : List Char) (d : Decimal) : List Char :=
  let digits := natDigits d.digits
  if d.exponent < 0 then
    let places := d.exponent.natAbs
    if places < digits.length then
      digits.take (digits.length - places) ++ '.' :: digits.drop (digits.length - places)
    else
      '0' :: '.' :: (List.replicate (places - digits.length) '0' ++ digits)
  else
    digits ++ List.replicate d.exponent.natAbs '0' ++ wholeTail

/-- Scientific text: one digit, a point if more follow, and a signed exponent. -/
def scientific (d : Decimal) : List Char :=
  let exponent := d.scientificExponent
  let mantissa :=
    match natDigits d.digits with
    | first :: second :: rest => first :: '.' :: second :: rest
    | short => short
  mantissa ++ 'e' :: (if exponent < 0 then '-' else '+') :: natDigits exponent.natAbs

end Decimal

/-- A minus sign for negative numbers, the negative zero included. -/
def signText (negative : Bool) : List Char := if negative then ['-'] else []

namespace Double

/-- Text of a number in messages and listings: always positional, whole numbers bare. -/
def plain : Double → String
  | nan => "NaN"
  | infinite negative => String.ofList (signText negative ++ "inf".toList)
  | finite negative size =>
      String.ofList (signText negative ++ (Decimal.shortest .up size.units).positional [])

/-- Scientific exponents below this bound are written positionally in documents. -/
def documentUpperExponent : Int := 16

/-- Least scientific exponent that is written positionally in documents. -/
def documentLowerExponent : Int := -5

/-- Text of a finite magnitude in documents: positional with a point for the common
exponents, scientific outside them.
-/
def documentDigits (size : Magnitude) : List Char :=
  let d := Decimal.shortest .toEven size.units
  if documentLowerExponent ≤ d.scientificExponent
      ∧ d.scientificExponent < documentUpperExponent then
    d.positional ['.', '0']
  else
    d.scientific

/-- Text of a number as a field of a document. Numbers that are not finite have none. -/
def document? : Double → Option (List Char)
  | finite negative size => some (signText negative ++ documentDigits size)
  | _ => none

/-- Text with a fixed number of decimal places, rounded from the exact value with halves to
even. `plus` writes a sign also in front of numbers that are not negative.
-/
def fixed (places : Nat) (plus : Bool) : Double → String
  | nan => "NaN"
  | infinite negative => String.ofList (sign negative ++ "inf".toList)
  | finite negative size =>
      let scaled := roundHalfEven (size.units * 10 ^ places) unitsPerOne
      let fraction := natDigits (scaled % 10 ^ places)
      let padding := List.replicate (places - fraction.length) '0'
      String.ofList
        (sign negative ++ natDigits (scaled / 10 ^ places) ++ '.' :: (padding ++ fraction))
where
  sign (negative : Bool) : List Char :=
    if negative then ['-'] else if plus then ['+'] else []

end Double

end PerfLedger
