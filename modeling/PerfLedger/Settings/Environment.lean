import PerfLedger.Settings.Value
import PerfLedger.Settings.VariableFile

/-!
Settings in the environment. A variable holds a setting when its name starts with the head
below, in any case of letters; two underscores in the rest of the name lead into a table.
-/

namespace PerfLedger

namespace Environment

/-- What the names of variables with settings start with, in lower case. -/
def settingHead : List Char := "benchwatch_".toList

/-- A text in which every pair of underscores has become a dot. -/
def dotUnderscores : List Char → List Char
  | '_' :: '_' :: rest => '.' :: dotUnderscores rest
  | c :: rest => c :: dotUnderscores rest
  | [] => []

/-- The name of the setting in a variable, if the variable holds one. -/
def settingName? (variableName : String) : Option String :=
  (settingHead.isPrefixOf? (lowerText variableName).toList).map fun rest =>
    String.ofList (dotUnderscores rest)

/-- The setting that a text stands for: a truth value, an integer or a double if it reads as
one, and else the text itself.
-/
def settingOf (text : String) : Setting :=
  let word := lowerText text
  if word = "true" then .bool true
  else if word = "false" then .bool false
  else
    match Setting.int64OfText? text.toList, Double.ofText? text.toList with
    | some value, _ => .int value
    | none, some value => .real value
    | none, none => .text text

/-- The settings in the variables of an environment. -/
def settings (environment : Environment) : SettingTable :=
  environment.filterMap fun (name, text) =>
    (settingName? name).map fun name => (name, settingOf text)

end Environment

end PerfLedger
