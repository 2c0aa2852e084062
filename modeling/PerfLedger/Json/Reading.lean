import PerfLedger.Json.Tree

/-!
Reading typed data from syntax trees. The first problem in the order of the text is the one
reported, be it a fault of the JSON or a value of the wrong shape.
-/

namespace PerfLedger

-----------------------------------------------------------------------------------------
-- Problems
-----------------------------------------------------------------------------------------

/-- The kind of a value that stands where another kind is expected. -/
inductive Found where
  | null
  | bool (value : Bool)
  | integer (value : Int)
  | real (value : Double)
  | text (value : String)
  | sequence
  | map
  deriving DecidableEq, Inhabited

/-- A well-formed document of the wrong shape. -/
inductive ShapeError where
  | wrongType (found : Found) (expected : String)
  | integerOutOfRange (value : Int) (expected : String)
  | missingField (name : String)
  | duplicateField (name : String)
  | wrongLength (length : Nat) (expected : String) (count : Nat)
  | unknownVariant (name : String) (known : List String)
  | duplicateSeries (tool : String)
  | missingAssignment
  | foreignTool (index : Nat) (series tool : String)
  deriving DecidableEq, Inhabited

/-- Why a document cannot be read: its text is not JSON, or its shape is wrong. -/
inductive ReadError where
  | json (fault : Fault)
  | shape (problem : ShapeError)
  deriving DecidableEq, Inhabited

/-- A fault of the text, as the result of reading. -/
def Fault.fail {α : Type} (fault : Fault) : Except ReadError α := .error (.json fault)

/-- A wrong shape, as the result of reading. -/
def ShapeError.fail {α : Type} (problem : ShapeError) : Except ReadError α :=
  .error (.shape problem)

/-- Fails with a fault, if there is one. -/
def requireNoFault : Option Fault → Except ReadError Unit
  | some fault => fault.fail
  | none => .ok ()

-----------------------------------------------------------------------------------------
-- Scalars
-----------------------------------------------------------------------------------------

namespace Tree

/-- Fails because another kind of value is expected. Texts and numbers must be readable for
that; containers are named without a look inside.
-/
def mismatch {α : Type} (expected : String) : Tree → Except ReadError α
  | null => ShapeError.fail (.wrongType .null expected)
  | bool value => ShapeError.fail (.wrongType (.bool value) expected)
  | number (.int value) => ShapeError.fail (.wrongType (.integer value) expected)
  | number (.real value) => ShapeError.fail (.wrongType (.real value) expected)
  | text value => ShapeError.fail (.wrongType (.text value) expected)
  | array .. => ShapeError.fail (.wrongType .sequence expected)
  | object .. => ShapeError.fail (.wrongType .map expected)
  | unpairedText => Fault.malformed.fail
  | hugeNumber => Fault.malformed.fail
  | broken place => place.whenRead.fail

/-- Reads a text. -/
def readText : Tree → Except ReadError String
  | text value => .ok value
  | other => other.mismatch "a string"

/-- Reads a truth value. -/
def readBool : Tree → Except ReadError Bool
  | bool value => .ok value
  | other => other.mismatch "a boolean"

/-- Reads a signed integer of 64 bits. -/
def readInt64 : Tree → Except ReadError Int
  | number (.int value) =>
      if -(2 ^ 63) ≤ value ∧ value < 2 ^ 63 then .ok value
      else ShapeError.fail (.integerOutOfRange value "i64")
  | other => other.mismatch "i64"

/-- Reads an unsigned integer of 64 bits. -/
def readCount : Tree → Except ReadError Nat
  | number (.int value) =>
      if 0 ≤ value then .ok value.natAbs
      else ShapeError.fail (.integerOutOfRange value "usize")
  | other => other.mismatch "usize"

/-- Reads a double; whole numbers are rounded to one. -/
def readDouble : Tree → Except ReadError Double
  | number value => .ok value.toDouble
  | other => other.mismatch "f64"

/-- Reads nothing from null, and a value from anything else. -/
def readOptional {α : Type} (read : Tree → Except ReadError α)
    : Tree → Except ReadError (Option α)
  | null => .ok none
  | other => some <$> read other

-----------------------------------------------------------------------------------------
-- Containers
-----------------------------------------------------------------------------------------

/-- Reads every item of an array. -/
def readList {α : Type} (read : Tree → Except ReadError α)
    : Tree → Except ReadError (List α)
  | array items closing => do
      let values ← items.mapM read
      requireNoFault closing.fault?
      return values
  | other => other.mismatch "a sequence"

end Tree

/-- Reads a member name. -/
def readName : Option String → Except ReadError String
  | some name => .ok name
  | none => Fault.malformed.fail

/-- The members of a sorted list with one more; an older member of the name is replaced. -/
def insertSorted {α : Type} (name : String) (value : α)
    : List (String × α) → List (String × α)
  | [] => [(name, value)]
  | (other, old) :: rest =>
      if name < other then (name, value) :: (other, old) :: rest
      else if name = other then (name, value) :: rest
      else (other, old) :: insertSorted name value rest

/-- Adds a read member to a sorted list. -/
def addMember {α : Type} (read : Tree → Except ReadError α) (done : List (String × α))
    (member : Option String × Tree)
    : Except ReadError (List (String × α)) := do
  let name ← readName member.1
  let value ← read member.2
  return insertSorted name value done

/-- Reads an object whose member names are free, sorted by name; of equal names the last
one counts.
-/
def Tree.readMap {α : Type} (read : Tree → Except ReadError α)
    : Tree → Except ReadError (List (String × α))
  | object members closing => do
      let values ← members.foldlM (addMember read) []
      requireNoFault closing.fault?
      return values
  | other => other.mismatch "a map"

/-- Reads any value. `depth` more containers may be nested; the text fails past that. -/
def Tree.readJson : (depth : Nat) → Tree → Except ReadError Json
  | _, null => .ok .null
  | _, bool value => .ok (.bool value)
  | _, number value => .ok (.number value)
  | _, text value => .ok (.text value)
  | depth + 1, array items closing => do
      let values ← items.mapM (readJson depth)
      requireNoFault closing.fault?
      return .array values
  | depth + 1, object members closing => do
      let values ← members.foldlM (addMember (readJson depth)) []
      requireNoFault closing.fault?
      return .object values
  | 0, array .. => Fault.malformed.fail
  | 0, object .. => Fault.malformed.fail
  | _, unpairedText => Fault.malformed.fail
  | _, hugeNumber => Fault.malformed.fail
  | _, broken place => place.whenRead.fail

-----------------------------------------------------------------------------------------
-- Records with named fields
-----------------------------------------------------------------------------------------

/-- How a record with named fields is read. `set` reads one field into a draft, and `finish`
turns the draft into the record or names the first field that is missing.
-/
structure RecordShape (Draft α : Type) where
  title : String
  fields : List String
  empty : Draft
  set : Draft → String → Tree → Except ReadError Draft
  finish : Draft → Except String α

namespace RecordShape

variable {Draft α : Type} (shape : RecordShape Draft α)

/-- Takes one member: a known field is read once, an unknown one is skipped. -/
def takeMember (state : List String × Draft) (member : Option String × Tree)
    : Except ReadError (List String × Draft) := do
  let name ← readName member.1
  if name ∈ shape.fields then
    if name ∈ state.1 then ShapeError.fail (.duplicateField name)
    else
      let draft ← shape.set state.2 name member.2
      return (name :: state.1, draft)
  else
    requireNoFault member.2.skippedFault?
    return state

/-- Reads the record from the members of an object, in any order. -/
def readMembers (members : List (Option String × Tree)) (closing : Closing)
    : Except ReadError α := do
  let (_, draft) ← members.foldlM shape.takeMember ([], shape.empty)
  requireNoFault closing.fault?
  match shape.finish draft with
  | .ok value => return value
  | .error name => ShapeError.fail (.missingField name)

/-- Reads the record from the items of an array, in the order of the fields. Fields that may
be missing may be left out at the end; an item too many is a fault of the text.
-/
def readItems (items : List Tree) (closing : Closing) : Except ReadError α := do
  let draft ← (shape.fields.zip items).foldlM
    (fun draft (name, item) => shape.set draft name item) shape.empty
  if items.length < shape.fields.length then requireNoFault closing.fault?
  match shape.finish draft with
  | .ok value =>
      if shape.fields.length < items.length then Fault.malformed.fail
      requireNoFault closing.fault?
      return value
  | .error name =>
      ShapeError.fail
        (.wrongLength (shape.fields.idxOf name) shape.title shape.fields.length)

/-- Reads the record from an object or an array. -/
def read : Tree → Except ReadError α
  | .object members closing => shape.readMembers members closing
  | .array items closing => shape.readItems items closing
  | other => other.mismatch shape.title

end RecordShape

/-- A required field of a draft. -/
def requireField {α : Type} (name : String) : Option α → Except String α
  | some value => .ok value
  | none => .error name

-----------------------------------------------------------------------------------------
-- Whole texts
-----------------------------------------------------------------------------------------

/-- Most containers that may be nested in a value outside of any record. -/
def maxDepth : Nat := 127

/-- Reads a whole text, after which nothing but space may follow. -/
def readDocument {α : Type} (read : Tree → Except ReadError α) (text : List Char)
    : Except ReadError α := do
  let parsed := parseText text
  let value ← read parsed.tree
  if parsed.trailing then Fault.malformed.fail
  return value

end PerfLedger
