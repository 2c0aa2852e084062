import PerfLedger.Double.Layout
import PerfLedger.Settings.Path
import PerfLedger.Text.Lowercase

/-!
Setting values, and how they are layered. Names in tables are in lower case. A later table is
merged into an earlier one member by member; anything else replaces what was there.
-/

namespace PerfLedger

-----------------------------------------------------------------------------------------
-- Values
-----------------------------------------------------------------------------------------

/-- What a source of settings holds under a name. Only an item of a list can be unset. -/
inductive Setting where
  | unset
  | text (value : String)
  | int (value : Int)
  | real (value : Double)
  | bool (value : Bool)
  | list (items : List Setting)
  | table (members : List (String × Setting))
  deriving Inhabited

/-- Settings by name. -/
abbrev SettingTable := List (String × Setting)

namespace Setting

/-- The members of a table; other values have none. -/
def members : Setting → SettingTable
  | table members => members
  | _ => []

/-- The items of a list; other values have none. -/
def items : Setting → List Setting
  | list items => items
  | _ => []

/-- The table with a value under a name, in the place of an older one. -/
def assign (name : String) (value : Setting) : SettingTable → SettingTable
  | [] => [(name, value)]
  | (other, old) :: rest =>
      if other = name then (name, value) :: rest
      else (other, old) :: assign name value rest

-----------------------------------------------------------------------------------------
-- Layers
-----------------------------------------------------------------------------------------

mutual

/-- The value under a name once a later value is laid over an earlier one. An empty table
leaves an earlier value as it is.
-/
def laid (old : Option Setting) : Setting → Setting
  | table [] => old.getD (table [])
  | table (first :: more) => table (mergeMembers (first :: more) ((old.map members).getD []))
  | value => value

/-- A table with later members laid over its own, one after the other. -/
def mergeMembers : SettingTable → SettingTable → SettingTable
  | [], base => base
  | (name, value) :: rest, base =>
      let name := lowerText name
      mergeMembers rest (assign name (laid (base.lookup name) value) base)

end

/-- Where an item of a list is, if its position is not before the start of the list. -/
def place? (length : Nat) (position : Int) : Option Nat :=
  let place := if position < 0 then length + position else position
  if 0 ≤ place then some place.toNat else none

/-- Some items with a changed one at a place. Items are unset up to a place after the end. -/
def changeAt (change : Setting → Setting) : Nat → List Setting → List Setting
  | 0, [] => [change unset]
  | 0, item :: rest => change item :: rest
  | place + 1, [] => unset :: changeAt change place []
  | place + 1, item :: rest => item :: changeAt change place rest

/-- Lays a value over what is at the end of a path in lower case. What is on the way becomes a
table or a list where it is not one yet; an item of a list is replaced.
-/
def layAt (value : Setting) : SettingPath → Setting → Setting
  | [], _ => value
  | [.member name], old => table (mergeMembers [(name, value)] old.members)
  | .member name :: rest, old =>
      let inner := layAt value rest ((old.members.lookup name).getD unset)
      table (assign name inner old.members)
  | .item position :: rest, old =>
      match place? old.items.length position with
      | some place => list (changeAt (layAt value rest) place old.items)
      | none => list old.items

/-- Lays the settings of a source over a table. Their names in lower case are read as paths. -/
def layer (base source : SettingTable) : SettingTable :=
  source.foldl
    (fun base (name, value) =>
      (layAt value (.ofText (lowerText name)) (table base)).members) base

-----------------------------------------------------------------------------------------
-- Numerals
-----------------------------------------------------------------------------------------

/-- The number written by a whole text of decimal digits, after an optional plus sign. -/
def natOfText? (text : List Char) : Option Nat :=
  match text with
  | '+' :: digits => SettingPath.natOf? digits
  | digits => SettingPath.natOf? digits

/-- The integer of 64 bits that is written by a whole text, with an optional sign. -/
def int64OfText? (text : List Char) : Option Int := do
  let value : Int ←
    match text with
    | '-' :: '+' :: _ => none
    | '-' :: digits => (natOfText? digits).map fun n => -(n : Int)
    | digits => (natOfText? digits).map fun n => (n : Int)
  if -(2 ^ 63) ≤ value ∧ value < 2 ^ 63 then some value else none

/-- Greatest number of a count. -/
def greatestCount : Nat := 2 ^ 64 - 1

-----------------------------------------------------------------------------------------
-- Conversions
-----------------------------------------------------------------------------------------

/-- The truth value that a word stands for. -/
def truthOfWord? (word : String) : Option Bool :=
  let word := lowerText word
  if word = "true" || word = "on" || word = "yes" then some true
  else if word = "false" || word = "off" || word = "no" then some false
  else none

/-- The count nearest to a double: halves are rounded up, and what is out of range goes to the
nearest end of it.
-/
def countOfDouble : Double → Nat
  | .nan => 0
  | .infinite negative => if negative then 0 else greatestCount
  | .finite negative size =>
      if negative then 0
      else min greatestCount ((2 * size.units + unitsPerOne) / (2 * unitsPerOne))

/-- A setting as a count. -/
def toCount? : Setting → Option Nat
  | int value => if 0 ≤ value then some value.natAbs else none
  | real value => some (countOfDouble value)
  | bool value => some value.toNat
  | text value =>
      match truthOfWord? value with
      | some truth => some truth.toNat
      | none => (natOfText? value.toList).filter fun n => n ≤ greatestCount
  | _ => none

/-- A setting as a double. -/
def toDouble? : Setting → Option Double
  | int value => some (.ofInt value)
  | real value => some value
  | bool value => some (.ofNat value.toNat)
  | text value =>
      match truthOfWord? value with
      | some truth => some (.ofNat truth.toNat)
      | none => Double.ofText? value.toList
  | _ => none

/-- A setting as a text. -/
def toText? : Setting → Option String
  | text value => some value
  | int value => some (String.ofList (intDigits value))
  | real value => some value.plain
  | bool value => some (if value then "true" else "false")
  | _ => none

end Setting

end PerfLedger
