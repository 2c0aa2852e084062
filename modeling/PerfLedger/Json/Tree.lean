import PerfLedger.Json.Token

/-!
Syntax trees of JSON text, as far as the text can be read. Where the text breaks off or goes
wrong, the tree ends in a mark of the fault, and every container around it is left open.
-/

namespace PerfLedger

-----------------------------------------------------------------------------------------
-- Trees
-----------------------------------------------------------------------------------------

/-- How a container ends. -/
inductive Closing where
  | closed
  /-- No comma or closing bracket follows; the fault is met when the container is skipped. -/
  | cut (fault : Fault)
  /-- The next member has no name. What stands in its place, if anything, is kept. -/
  | unnamed (found : Option Token)
  deriving DecidableEq, Inhabited

/-- A syntax tree. A member's name is missing when its escapes spell no text. -/
inductive Tree where
  | null
  | bool (value : Bool)
  | number (value : JsonNumber)
  | text (value : String)
  | unpairedText
  | hugeNumber
  | array (items : List Tree) (closing : Closing)
  | object (members : List (Option String × Tree)) (closing : Closing)
  | broken (place : Break)
  deriving Inhabited

/-- The fault of a name that is missing, met by a reader that needs it. -/
def missingNameFault : Option Token → Fault
  | none => .truncated
  | some (.broken place) => place.whenNamed
  | some _ => .malformed

/-- The fault of an ending, met by a reader that has used all members or items. -/
def Closing.fault? : Closing → Option Fault
  | closed => none
  | cut fault => some fault
  | unnamed found => some (missingNameFault found)

/-- The fault of an ending, met by a reader that skips the container. -/
def Closing.skippedFault? : Closing → Option Fault
  | closed => none
  | cut fault => some fault
  | unnamed none => some .truncated
  | unnamed (some (.broken place)) => some place.whenNameSkipped
  | unnamed (some _) => some .malformed

/-- The fault inside a tree, met by a reader that skips it. Whole trees have none, however
deep they are and whatever numbers and texts they hold.
-/
def Tree.skippedFault? : Tree → Option Fault
  | array _ closing => closing.skippedFault?
  | object _ closing => closing.skippedFault?
  | broken place => some place.whenSkipped
  | _ => none

-----------------------------------------------------------------------------------------
-- Building
-----------------------------------------------------------------------------------------

/-- A container that is still open, with its finished parts in reverse order. -/
inductive Frame where
  | items (done : List Tree)
  | members (done : List (Option String × Tree)) (name : Option String)

/-- Leaves every open container unfinished around the place where reading stopped. -/
def unwind (inner : Tree) : List Frame → Tree
  | [] => inner
  | .items done :: outer =>
      unwind
        (.array (inner :: done).reverse (.cut (inner.skippedFault?.getD .malformed))) outer
  | .members done name :: outer =>
      unwind
        (.object ((name, inner) :: done).reverse
          (.cut (inner.skippedFault?.getD .malformed)))
        outer

/-- A tree, and whether anything follows it in the text. -/
structure Parsed where
  tree : Tree
  trailing : Bool
  deriving Inhabited

/-- The result of stopping at a fault. -/
def halted (inner : Tree) (stack : List Frame) : Parsed := ⟨unwind inner stack, false⟩

/-- The fault of a missing comma or closing bracket. -/
def missingDelimiter (rest : List Token) : Closing :=
  .cut (if rest.isEmpty then .truncated else .malformed)

/-- The break of a missing colon. -/
def missingColon (rest : List Token) : Break :=
  if rest.isEmpty then .endOfText else .misplaced

mutual

/-- Builds the value that starts here, inside the open containers of `stack`. -/
def buildValue (stack : List Frame) : List Token → Parsed
  | [] => halted (.broken .endOfText) stack
  | .null :: rest => buildAfter stack .null rest
  | .bool value :: rest => buildAfter stack (.bool value) rest
  | .number value :: rest => buildAfter stack (.number value) rest
  | .text value :: rest => buildAfter stack (.text value) rest
  | .unpairedText :: rest => buildAfter stack .unpairedText rest
  | .hugeNumber :: rest => buildAfter stack .hugeNumber rest
  | .beginArray :: .endArray :: rest => buildAfter stack (.array [] .closed) rest
  | .beginArray :: rest => buildValue (.items [] :: stack) rest
  | .beginObject :: .endObject :: rest => buildAfter stack (.object [] .closed) rest
  | .beginObject :: rest => buildMember stack [] rest
  | .broken place :: _ => halted (.broken place) stack
  | _ :: _ => halted (.broken .misplaced) stack

/-- Builds the member that starts here, in the object with the finished members `done`. -/
def buildMember (stack : List Frame) (done : List (Option String × Tree))
    : List Token → Parsed
  | .text name :: .colon :: rest => buildValue (.members done (some name) :: stack) rest
  | .text name :: rest =>
      halted (.broken (missingColon rest)) (.members done (some name) :: stack)
  | .unpairedText :: .colon :: rest => buildValue (.members done none :: stack) rest
  | .unpairedText :: rest =>
      halted (.broken (missingColon rest)) (.members done none :: stack)
  | rest => halted (.object done.reverse (.unnamed rest.head?)) stack

/-- Goes on after a finished value: to its container, or to the end. -/
def buildAfter : List Frame → Tree → List Token → Parsed
  | [], value, rest => ⟨value, !rest.isEmpty⟩
  | .items done :: outer, value, .comma :: rest =>
      buildValue (.items (value :: done) :: outer) rest
  | .items done :: outer, value, .endArray :: rest =>
      buildAfter outer (.array (value :: done).reverse .closed) rest
  | .items done :: outer, value, rest =>
      halted (.array (value :: done).reverse (missingDelimiter rest)) outer
  | .members done name :: outer, value, .comma :: rest =>
      buildMember outer ((name, value) :: done) rest
  | .members done name :: outer, value, .endObject :: rest =>
      buildAfter outer (.object ((name, value) :: done).reverse .closed) rest
  | .members done name :: outer, value, rest =>
      halted (.object ((name, value) :: done).reverse (missingDelimiter rest)) outer

end

/-- The syntax tree of a text. -/
def parseText (text : List Char) : Parsed := buildValue [] (tokens text)

end PerfLedger
