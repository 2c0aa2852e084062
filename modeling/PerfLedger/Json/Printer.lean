import PerfLedger.Json.Value

/-!
Printing of JSON values, on one line or with an indentation of two spaces a level. Members
are written in the order in which they stand.
-/

namespace PerfLedger

/-- A hexadecimal digit in lower case. -/
def hexDigit (n : Nat) : Char :=
  if n < 10 then Char.ofNat (n + '0'.toNat) else Char.ofNat (n - 10 + 'a'.toNat)

/-- A character inside a quoted text. Quotes, backslashes and control characters are
escaped; everything else stands for itself.
-/
def escapeChar (c : Char) : List Char :=
  if c = '"' then ['\\', '"']
  else if c = '\\' then ['\\', '\\']
  else if c = '\x08' then ['\\', 'b']
  else if c = '\x0c' then ['\\', 'f']
  else if c = '\n' then ['\\', 'n']
  else if c = '\r' then ['\\', 'r']
  else if c = '\t' then ['\\', 't']
  else if c.toNat < 0x20 then
    ['\\', 'u', '0', '0', hexDigit (c.toNat / 16), hexDigit (c.toNat % 16)]
  else [c]

/-- A text between quotes. -/
def quoted (s : String) : List Char := '"' :: (s.toList.flatMap escapeChar ++ ['"'])

/-- A number; doubles that are not finite have no number and print as null. -/
def JsonNumber.print : JsonNumber → List Char
  | int value => intDigits value
  | real value => value.document?.getD "null".toList

/-- A truth value. -/
def printBool (value : Bool) : List Char := if value then "true".toList else "false".toList

namespace Json

mutual

/-- A value on one line, without spaces. -/
def printCompact : Json → List Char
  | null => "null".toList
  | bool value => printBool value
  | number value => value.print
  | text value => quoted value
  | array items => '[' :: (printCompactItems items ++ [']'])
  | object members => '{' :: (printCompactMembers members ++ ['}'])

/-- The items of an array, with commas between them. -/
def printCompactItems : List Json → List Char
  | [] => []
  | [item] => item.printCompact
  | item :: rest => item.printCompact ++ ',' :: printCompactItems rest

/-- The members of an object, with commas between them. -/
def printCompactMembers : List (String × Json) → List Char
  | [] => []
  | [(name, value)] => quoted name ++ ':' :: value.printCompact
  | (name, value) :: rest =>
      quoted name ++ ':' :: (value.printCompact ++ ',' :: printCompactMembers rest)

end

/-- The text of a value on one line. -/
def compact (value : Json) : String := String.ofList value.printCompact

/-- A line break and the indentation of a nesting level. -/
def lineBreak (level : Nat) : List Char := '\n' :: List.replicate (2 * level) ' '

mutual

/-- A value whose nested lines stand `level` levels deep. Empty containers stay closed up. -/
def printPretty (level : Nat) : Json → List Char
  | null => "null".toList
  | bool value => printBool value
  | number value => value.print
  | text value => quoted value
  | array [] => ['[', ']']
  | array (item :: rest) =>
      '[' :: (printPrettyItems (level + 1) (item :: rest) ++ lineBreak level ++ [']'])
  | object [] => ['{', '}']
  | object (member :: rest) =>
      '{' :: (printPrettyMembers (level + 1) (member :: rest) ++ lineBreak level ++ ['}'])

/-- The items of an array, each on lines of its own. -/
def printPrettyItems (level : Nat) : List Json → List Char
  | [] => []
  | [item] => lineBreak level ++ item.printPretty level
  | item :: rest =>
      lineBreak level ++ item.printPretty level ++ ',' :: printPrettyItems level rest

/-- The members of an object, each on lines of its own. -/
def printPrettyMembers (level : Nat) : List (String × Json) → List Char
  | [] => []
  | [(name, value)] => lineBreak level ++ quoted name ++ ':' :: ' ' :: value.printPretty level
  | (name, value) :: rest =>
      lineBreak level ++ quoted name
      ++ ':' :: ' ' :: (value.printPretty level ++ ',' :: printPrettyMembers level rest)

end

/-- The text of a value with two spaces of indentation a level. -/
def pretty (value : Json) : String := String.ofList (value.printPretty 0)

end Json

end PerfLedger
