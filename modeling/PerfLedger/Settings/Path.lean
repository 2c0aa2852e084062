import PerfLedger.Double.Numeral

/-!
Paths of settings. A path is a name, followed by names behind dots, which lead into tables,
and by positions in square brackets, which lead into lists.
-/

namespace PerfLedger

/-- One step of a path: to a member of a table, or to an item of a list. Negative positions
count from the end of the list.
-/
inductive SettingStep where
  | member (name : String)
  | item (position : Int)
  deriving DecidableEq, Repr, Inhabited

/-- Steps from the table of all settings. -/
abbrev SettingPath := List SettingStep

namespace SettingPath

/-- A character of a name in a path. -/
def isNameChar (c : Char) : Bool := c.isAlphanum || c = '_' || c = '-' || c = ' '

/-- White space that may stand around a position. -/
def isGap (c : Char) : Bool := c = ' ' || c = '\t'

/-- The number of some digits, unless there are none or something else stands among them. -/
def natOf? (digits : List Char) : Option Nat :=
  if !digits.isEmpty && digits.all isDecimalDigit then some (natOfDigits digits) else none

/-- The position between two brackets: an integer of 64 bits without a plus sign. -/
def position? (text : List Char) : Option Int := do
  let text := ((text.dropWhile isGap).reverse.dropWhile isGap).reverse
  let position : Int ←
    match text with
    | '-' :: digits => (natOf? digits).map fun n => -(n : Int)
    | digits => (natOf? digits).map fun n => (n : Int)
  if -(2 ^ 63) ≤ position ∧ position < 2 ^ 63 then some position else none

/-- The steps after the first name of a path. -/
def steps? : List Char → Option SettingPath
  | [] => some []
  | '.' :: text =>
      let name := text.takeWhile isNameChar
      if name.isEmpty then none
      else
        (steps? (text.dropWhile isNameChar)).map fun steps =>
          .member (String.ofList name) :: steps
  | '[' :: text =>
      let rest := text.dropWhile (· != ']')
      if rest.isEmpty then none
      else do
        let position ← position? (text.takeWhile (· != ']'))
        return .item position :: (← steps? rest.tail)
  | _ => none
termination_by text => text.length
decreasing_by
  · exact Nat.lt_succ_of_le (List.dropWhile_sublist _).length_le
  · exact Nat.lt_succ_of_le
      (Nat.le_trans (List.tail_sublist _).length_le (List.dropWhile_sublist _).length_le)

/-- The path that a text spells. A text of any other form is a name as a whole. -/
def ofText (text : String) : SettingPath :=
  let name := text.toList.takeWhile isNameChar
  match steps? (text.toList.dropWhile isNameChar) with
  | some steps =>
      if name.isEmpty then [.member text] else .member (String.ofList name) :: steps
  | none => [.member text]

end SettingPath

end PerfLedger
