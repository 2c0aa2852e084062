import PerfLedger.Double.Layout

/-! Calendar dates of epoch milliseconds, in the proleptic Gregorian calendar and UTC. -/

namespace PerfLedger

/-- A day of the calendar. -/
structure CivilDate where
  year : Int
  month : Nat
  day : Nat
  deriving DecidableEq, Repr, Inhabited

/-- The date a number of days after 1970-01-01. Years are counted from March inside eras of
400 years, so that the leap day is the last of its year.
-/
def CivilDate.ofDays (days : Int) : CivilDate :=
  let shifted := days + 719468
  let era := shifted.fdiv 146097
  let dayOfEra := (shifted.fmod 146097).natAbs
  let yearOfEra :=
    (dayOfEra - dayOfEra / 1460 + dayOfEra / 36524 - dayOfEra / 146096) / 365
  let dayOfYear := dayOfEra - (365 * yearOfEra + yearOfEra / 4 - yearOfEra / 100)
  let marchMonth := (5 * dayOfYear + 2) / 153
  let day := dayOfYear - (153 * marchMonth + 2) / 5 + 1
  let month := if marchMonth < 10 then marchMonth + 3 else marchMonth - 9
  let year := (yearOfEra : Int) + era * 400 + (if month ≤ 2 then 1 else 0)
  { year, month, day }

/-- First and last year that dates are shown for. -/
def CivilDate.hasYear (d : CivilDate) : Bool := -262143 ≤ d.year && d.year ≤ 262142

/-- A number with zeros in front up to a width. -/
def padded (width n : Nat) : String :=
  let digits := natDigits n
  String.ofList (List.replicate (width - digits.length) '0' ++ digits)

/-- A year: four digits, and a sign when it is outside of them. -/
def yearText (year : Int) : String :=
  if 0 ≤ year ∧ year < 10000 then padded 4 year.natAbs
  else (if year < 0 then "-" else "+") ++ padded 4 year.natAbs

/-- A date and time of day from epoch milliseconds. Dates outside of the calendar are shown
as the number of milliseconds.
-/
def formatDate (epochMillis : Int) : String :=
  let seconds := epochMillis.fdiv 1000
  let date := CivilDate.ofDays (seconds.fdiv 86400)
  let secondOfDay := (seconds.fmod 86400).natAbs
  if date.hasYear then
    yearText date.year ++ "-" ++ padded 2 date.month ++ "-" ++ padded 2 date.day ++ " "
      ++ padded 2 (secondOfDay / 3600) ++ ":" ++ padded 2 (secondOfDay / 60 % 60) ++ ":"
      ++ padded 2 (secondOfDay % 60) ++ " UTC"
  else
    String.ofList (intDigits epochMillis)

end PerfLedger
