import PerfLedger.Json.Message
import PerfLedger.Text.Blank

/-!
The script around the data of an artifact: an assignment to a global name, with or without a
semicolon at the end. Bare data is accepted too.
-/

namespace PerfLedger.Artifact

/-- The text after a head, if the text starts with it. -/
def dropHead? : (head text : List Char) → Option (List Char)
  | [], text => some text
  | _ :: _, [] => none
  | h :: head, c :: text => if h = c then dropHead? head text else none

/-- A text without one semicolon at its end. -/
def dropSemicolon (text : List Char) : List Char :=
  if text.getLast? = some ';' then text.dropLast else text

/-- The data inside a script. -/
def payload (text : List Char) : Except ReadError (List Char) :=
  let text := trim text
  match dropHead? scriptGlobal.toList text with
  | none => .ok (body text)
  | some rest =>
      match dropHead? ['='] (trimStart rest) with
      | some assigned => .ok (body assigned)
      | none => ShapeError.fail .missingAssignment
where
  body (text : List Char) : List Char := trimEnd (dropSemicolon (trim text))

/-- What the script of a written artifact starts with. -/
def scriptHead : String := scriptGlobal ++ " = "

end PerfLedger.Artifact
