import PerfLedger.Record.Basic
import PerfLedger.Json.Reading

/-!
Records as they arrive. Every field of a draft may be absent, so that a missing one is
reported by name once the whole draft has been read.
-/

namespace PerfLedger

/-- A record before it is checked. The value may be of any kind. -/
structure RecordDraft where
  name : Option String
  value : Option Json
  unit : Option String
  range : Option String
  extra : Option String
  deriving Inhabited

namespace RecordDraft

/-- A draft with no fields. -/
def empty : RecordDraft := ⟨none, none, none, none, none⟩

/-- Reads one field of a draft; `depth` more containers may be nested in its value. -/
def set (depth : Nat) (draft : RecordDraft) (field : String) (tree : Tree)
    : Except ReadError RecordDraft :=
  match field with
  | "name" => return { draft with name := ← tree.readOptional Tree.readText }
  | "value" => return { draft with value := ← tree.readOptional (Tree.readJson depth) }
  | "unit" => return { draft with unit := ← tree.readOptional Tree.readText }
  | "range" => return { draft with range := ← tree.readOptional Tree.readText }
  | "extra" => return { draft with extra := ← tree.readOptional Tree.readText }
  | _ => return draft

/-- How a draft is read; `depth` more containers may be nested, its own included. -/
def shape (depth : Nat) : RecordShape RecordDraft RecordDraft where
  title := "struct RawBenchmark"
  fields := ["name", "value", "unit", "range", "extra"]
  empty := empty
  set := set (depth - 1)
  finish := .ok

/-- The record of a draft. The name is looked at first, then the presence of the other
fields, and last the value itself.
-/
def check (draft : RecordDraft) : Except RecordError Record := do
  let name ← require "name" (draft.name.filter fun name => !isBlankText name)
  let value ← require "value" draft.value
  let unit ← require "unit" draft.unit
  let value ←
    match value with
    | .number number => Record.checkValue name number.toDouble
    | other => .error (.invalidValue name other.compact)
  return { name, value, unit, range := draft.range, extra := draft.extra }
where
  require {α : Type} (field : String) : Option α → Except RecordError α
    | some value => .ok value
    | none => .error (.missingField field)

end RecordDraft

end PerfLedger
