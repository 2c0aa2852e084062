import PerfLedger.Ledger.Basic
import PerfLedger.Proofs.Json.Layout

/-! The data of a ledger, field by field, with its values given as any numbers. An artifact holds
this data with one choice of numbers, and a script with another.
-/

namespace PerfLedger

-----------------------------------------------------------------------------------------
-- Objects with absent fields
-----------------------------------------------------------------------------------------

namespace Json

/-- The object of some fields, without those that are absent. -/
def fields (members : List (String × Option Json)) : Json :=
  .object (members.filterMap fun m => m.2.map (m.1, ·))

end Json

-----------------------------------------------------------------------------------------
-- Fields
-----------------------------------------------------------------------------------------

/-- The data of a person. -/
def Person.data (p : Person) : Json :=
  .fields
    [("email", some (.text p.email)), ("name", some (.text p.name)),
      ("username", p.username.map .text)]

/-- The data of a commit. -/
def Commit.data (c : Commit) : Json :=
  .fields
    [("author", some c.author.data), ("committer", some c.committer.data),
      ("distinct", c.distinct.map .bool), ("id", some (.text c.id)),
      ("message", some (.text c.message)), ("timestamp", some (.text c.timestamp)),
      ("tree_id", c.treeId.map .text), ("url", some (.text c.url))]

section Numbers

variable (number : Double → JsonNumber)

/-- The data of a record. -/
def Record.data (r : Record) : Json :=
  .fields
    [("name", some (.text r.name)), ("value", some (.number (number r.value))),
      ("unit", some (.text r.unit)), ("range", r.range.map .text), ("extra", r.extra.map .text)]

/-- The data of an entry. -/
def Entry.data (e : Entry) : Json :=
  .fields
    [("commit", some e.commit.data), ("date", some (.int e.date)), ("tool", some (.text e.tool)),
      ("benches", some (.array (e.records.map (Record.data number))))]

/-- The data of the series of a ledger. -/
def Ledger.seriesData (series : List (String × List Entry)) : Json :=
  .object (series.map fun s => (s.1, .array (s.2.map (Entry.data number))))

/-- The data of a ledger. -/
def Ledger.data (l : Ledger) : Json :=
  .fields
    [("lastUpdate", some (.int l.lastUpdate)), ("repoUrl", some (.text l.repoUrl)),
      ("entries", some (seriesData number l.series))]

end Numbers

-----------------------------------------------------------------------------------------
-- Written objects
-----------------------------------------------------------------------------------------

theorem Person.toJson_eq_data (p : Person) : p.toJson = p.data := by
  obtain ⟨email, name, username⟩ := p
  cases username <;> rfl

theorem Commit.toJson_eq_data (c : Commit) : c.toJson = c.data := by
  obtain ⟨author, committer, distinct, id, message, timestamp, treeId, url⟩ := c
  rw [toJson, data, ← Person.toJson_eq_data, ← Person.toJson_eq_data]
  cases distinct <;> cases treeId <;> rfl

theorem Record.toJson_eq_data (r : Record) : r.toJson = r.data valueNumber := by
  obtain ⟨name, value, unit, range, extra⟩ := r
  cases range <;> cases extra <;> rfl

theorem Entry.toJson_eq_data (e : Entry) : e.toJson = e.data Record.valueNumber := by
  rw [toJson, data, Commit.toJson_eq_data, funext Record.toJson_eq_data]
  rfl

/-- The object written for a ledger is its data, with the numbers of artifacts. -/
theorem Ledger.toJson_eq_data (l : Ledger) : l.toJson = l.data Record.valueNumber := by
  rw [toJson, data, seriesData, ← funext Entry.toJson_eq_data]
  rfl

-----------------------------------------------------------------------------------------
-- Numbers
-----------------------------------------------------------------------------------------

/-- Another number for a double, and the same integers. -/
def JsonNumber.mapReal (f : Double → JsonNumber) : JsonNumber → JsonNumber
  | int value => int value
  | real value => f value

theorem Commit.numbers_data (c : Commit) : c.data.numbers = [] := by
  obtain ⟨⟨_, _, username⟩, ⟨_, _, username'⟩, distinct, _, _, _, treeId, _⟩ := c
  cases username <;> cases username' <;> cases distinct <;> cases treeId <;> rfl

theorem Commit.mapNumbers_data (f : JsonNumber → JsonNumber) (c : Commit)
    : c.data.mapNumbers f = c.data := by
  obtain ⟨⟨_, _, username⟩, ⟨_, _, username'⟩, distinct, _, _, _, treeId, _⟩ := c
  cases username <;> cases username' <;> cases distinct <;> cases treeId <;> rfl

section Numbers

variable (number : Double → JsonNumber)

theorem Record.numbers_data (r : Record) : (r.data number).numbers = [number r.value] := by
  obtain ⟨_, _, _, range, extra⟩ := r
  cases range <;> cases extra <;> rfl

theorem Record.mapNumbers_data (r : Record)
    : (r.data .real).mapNumbers (.mapReal number) = r.data number := by
  obtain ⟨_, _, _, range, extra⟩ := r
  cases range <;> cases extra <;> rfl

/-- No field of an entry is ever absent. -/
theorem Entry.data_eq (e : Entry)
    : e.data number
      = .object [("commit", e.commit.data), ("date", .int e.date), ("tool", .text e.tool),
        ("benches", .array (e.records.map (Record.data number)))] :=
  rfl

theorem Entry.numbers_data (e : Entry)
    : (e.data number).numbers = .int e.date :: e.records.map fun r => number r.value := by
  simp [data_eq, Commit.numbers_data, List.flatMap_map, Record.numbers_data,
    ← List.map_eq_flatMap]

theorem Entry.mapNumbers_data (e : Entry)
    : (e.data .real).mapNumbers (.mapReal number) = e.data number := by
  simp [data_eq, Commit.mapNumbers_data, Record.mapNumbers_data, JsonNumber.mapReal]
  rfl

/-- No field of a ledger is ever absent. -/
theorem Ledger.data_eq (l : Ledger)
    : l.data number
      = .object [("lastUpdate", .int l.lastUpdate), ("repoUrl", .text l.repoUrl),
        ("entries", .object (l.series.map fun s => (s.1, .array (s.2.map (Entry.data number)))))] :=
  rfl

/-- The numbers in the data of a ledger are its dates and values. -/
theorem Ledger.numbers_data (l : Ledger)
    : (l.data number).numbers
      = .int l.lastUpdate :: l.series.flatMap fun s =>
          s.2.flatMap fun e => .int e.date :: e.records.map fun r => number r.value := by
  simp [data_eq, List.flatMap_map, Entry.numbers_data]

/-- The data of a ledger with any numbers is that of a script with other numbers. -/
theorem Ledger.mapNumbers_data (l : Ledger)
    : (l.data .real).mapNumbers (.mapReal number) = l.data number := by
  simp [data_eq, Entry.mapNumbers_data, JsonNumber.mapReal]
  rfl

end Numbers

end PerfLedger
