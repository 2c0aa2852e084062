import PerfLedger.Proofs.Artifact.Rearranging
import PerfLedger.Proofs.Artifact.RoundTrip

/-! Written documents that are turned around: every object of a ledger with its members the other
way round, and each record with a member that is unknown there. They are the same ledgers in
another arrangement.
-/

namespace PerfLedger

-----------------------------------------------------------------------------------------
-- Values
-----------------------------------------------------------------------------------------

namespace Json

/-- An object with its members changed and the other way round, behind some more members. -/
def turned (extra : List (String × Json)) (change : String → Json → Json) : Json → Json
  | object members => object (extra ++ (members.map fun m => (m.1, change m.1 m.2)).reverse)
  | other => other

/-- An array with its items changed. -/
def mapItems (change : Json → Json) : Json → Json
  | array items => array (items.map change)
  | other => other

/-- What is changed to readable values and stands behind some is readable when turned around. -/
theorem Readable.turned {extra : List (String × Json)} {change : String → Json → Json}
    (more : ∀ m ∈ extra, Readable m.2)
    (each : ∀ name value, Readable value → Readable (change name value)) {value : Json}
    (h : value.Readable)
    : (value.turned extra change).Readable := by
  cases h with
  | object all =>
      refine .object (List.forall_mem_append.mpr ⟨more, fun m member => ?_⟩)
      obtain ⟨old, present, rfl⟩ := List.mem_map.mp (List.mem_reverse.mp member)
      exact each _ _ (all old present)
  | null => exact .null
  | bool value => exact .bool value
  | number readable => exact .number readable
  | text value => exact .text value
  | array all => exact .array all

theorem Readable.mapItems {change : Json → Json}
    (each : ∀ value, Readable value → Readable (change value)) {value : Json}
    (h : value.Readable)
    : (value.mapItems change).Readable := by
  cases h with
  | array all => exact .array (List.forall_mem_map.mpr fun item present => each _ (all item present))
  | null => exact .null
  | bool value => exact .bool value
  | number readable => exact .number readable
  | text value => exact .text value
  | object all => exact .object all

end Json

section

variable {value : String → Tree → Tree → Prop} {change : String → Json → Json}

theorem sameMembers_change {members : List (String × Json)}
    (each : ∀ m ∈ members, value m.1 m.2.tree (change m.1 m.2).tree)
    : List.Forall₂ (SameMember value) (members.map fun m => (some m.1, m.2.tree))
        (members.map fun m => (some m.1, (change m.1 m.2).tree)) := by
  rw [List.forall₂_map_left_iff, List.forall₂_map_right_iff]
  refine List.forall₂_same.mpr fun m member => ⟨rfl, fun name named => ?_⟩
  exact Option.some.inj named ▸ each m member

/-- An object that is turned around, behind a member that is no field, is a record in another
arrangement.
-/
theorem rearranged_turned {fields : List String} {strange : String} {more : Json}
    (unknown : strange ∉ fields) {members : List (String × Json)}
    (each : ∀ m ∈ members, value m.1 m.2.tree (change m.1 m.2).tree)
    : Rearranged fields value (Json.object members).tree
        ((Json.object members).turned [(strange, more)] change).tree := by
  have order := List.reverse_perm
    ((members.map fun m => (some m.1, (change m.1 m.2).tree)) ++ [(some strange, more.tree)])
  rw [List.reverse_concat] at order
  unfold Json.turned Json.tree
  rw [Json.memberTrees_eq_map, Json.memberTrees_eq_map, List.map_append, List.map_reverse,
    List.map_map]
  exact .object (sameMembers_change each)
    (List.forall_mem_singleton.mpr ⟨strange, rfl, unknown⟩) order

theorem eachRearranged_mapItems {α : Type} {item : Tree → Tree → Prop} {change : Json → Json}
    {write : α → Json} (each : ∀ x, item (write x).tree (change (write x)).tree) (items : List α)
    : EachRearranged item (Json.array (items.map write)).tree
        ((Json.array (items.map write)).mapItems change).tree := by
  unfold Json.mapItems Json.tree
  rw [Json.itemTrees_eq_map, Json.itemTrees_eq_map, List.map_map, List.map_map, List.map_map]
  refine .array ?_
  rw [List.forall₂_map_left_iff, List.forall₂_map_right_iff]
  exact List.forall₂_same.mpr fun x _ => each x

end

-----------------------------------------------------------------------------------------
-- People, commits and records
-----------------------------------------------------------------------------------------

/-- A member of a name that is no field. -/
def strangeMember : String × Json := ("x", .array [.null])

theorem readable_strangeMember : ∀ m ∈ [strangeMember], Json.Readable m.2 :=
  List.forall_mem_singleton.mpr (.array (List.forall_mem_singleton.mpr .null))

/-- A field that is left as it is. -/
def keepField (_ : String) (value : Json) : Json := value

/-- A record with single values for fields turned around. -/
def Json.turnedPlain : Json → Json := turned [strangeMember] keepField

theorem Json.Readable.turnedPlain {value : Json} (h : value.Readable)
    : value.turnedPlain.Readable :=
  h.turned readable_strangeMember fun _ _ h => h

theorem Person.rearranges_turned (p : Person)
    : Rearranges p.toJson.tree p.toJson.turnedPlain.tree :=
  rearranged_turned (by simp [shape]) fun _ _ => rfl

theorem RecordDraft.rearranges_turned (r : Record)
    : Rearranges r.toJson.tree r.toJson.turnedPlain.tree :=
  rearranged_turned (by simp [shape]) fun _ _ => rfl

namespace Commit

/-- A field of a commit turned around. -/
def turnField : String → Json → Json
  | "author" => Json.turnedPlain
  | "committer" => Json.turnedPlain
  | name => keepField name

theorem rearranges_turned (c : Commit)
    : Rearranges c.toJson.tree (c.toJson.turned [strangeMember] turnField).tree := by
  refine rearranged_turned (by simp [shape]) ?_
  have distinct
      : ∀ m ∈ Json.optional "distinct" (c.distinct.map .bool),
          FieldRearranges m.1 m.2.tree (turnField m.1 m.2).tree := by
    cases c.distinct <;> simp [Json.optional, FieldRearranges, turnField, keepField]
  have treeId
      : ∀ m ∈ Json.optional "tree_id" (c.treeId.map .text),
          FieldRearranges m.1 m.2.tree (turnField m.1 m.2).tree := by
    cases c.treeId <;> simp [Json.optional, FieldRearranges, turnField, keepField]
  simp only [List.forall_mem_append]
  refine ⟨⟨⟨⟨?_, distinct⟩, ?_⟩, treeId⟩, ?_⟩
  · exact List.forall_mem_cons.mpr ⟨c.author.rearranges_turned,
      List.forall_mem_singleton.mpr c.committer.rearranges_turned⟩
  · simp [FieldRearranges, turnField, keepField]
  · simp [FieldRearranges, turnField, keepField]

theorem readable_turned {value : Json} (h : value.Readable)
    : (value.turned [strangeMember] turnField).Readable := by
  refine h.turned readable_strangeMember fun name field h => ?_
  unfold turnField
  split
  · exact h.turnedPlain
  · exact h.turnedPlain
  · exact h

end Commit

-----------------------------------------------------------------------------------------
-- Entries and ledgers
-----------------------------------------------------------------------------------------

namespace EntryDraft

/-- A field of an entry turned around. -/
def turnField : String → Json → Json
  | "commit" => .turned [strangeMember] Commit.turnField
  | "benches" => .mapItems Json.turnedPlain
  | name => keepField name

theorem rearranges_turned (e : Entry)
    : Rearranges e.toJson.tree (e.toJson.turned [strangeMember] turnField).tree := by
  refine rearranged_turned (by simp [shape]) ?_
  simp only [List.forall_mem_cons]
  exact ⟨e.commit.rearranges_turned, rfl, rfl,
    eachRearranged_mapItems RecordDraft.rearranges_turned e.records, List.forall_mem_nil _⟩

theorem readable_turned {value : Json} (h : value.Readable)
    : (value.turned [strangeMember] turnField).Readable := by
  refine h.turned readable_strangeMember fun name field h => ?_
  unfold turnField
  split
  · exact Commit.readable_turned h
  · exact h.mapItems fun _ h => h.turnedPlain
  · exact h

end EntryDraft

namespace LedgerDraft

/-- The entries of a tool turned around. -/
def turnEntries (_ : String) : Json → Json :=
  .mapItems (.turned [strangeMember] EntryDraft.turnField)

/-- A field of a ledger turned around. No member is unknown among the tools. -/
def turnField : String → Json → Json
  | "entries" => .turned [] turnEntries
  | name => keepField name

/-- The document of a ledger turned around. -/
def turned (l : Ledger) : Json := l.toJson.turned [strangeMember] turnField

theorem seriesRearranges_turned (series : List (String × List Entry))
    : SeriesRearranges (Json.object (Ledger.seriesMembers series)).tree
        ((Json.object (Ledger.seriesMembers series)).turned [] turnEntries).tree := by
  have each (m : String × Json) (member : m ∈ Ledger.seriesMembers series)
      : EachRearranged EntryDraft.Rearranges m.2.tree (turnEntries m.1 m.2).tree := by
    obtain ⟨s, -, rfl⟩ := List.mem_map.mp member
    exact eachRearranged_mapItems EntryDraft.rearranges_turned s.2
  unfold Json.turned Json.tree
  rw [Json.memberTrees_eq_map, Json.memberTrees_eq_map, List.nil_append, List.map_reverse,
    List.map_map]
  exact .object (sameMembers_change each) (List.reverse_perm _)

/-- The document of a ledger turned around is the same ledger in another arrangement. -/
theorem rearranges_turned (l : Ledger) : Rearranges l.toJson.tree (turned l).tree := by
  refine rearranged_turned (by simp [shape]) ?_
  simp only [List.forall_mem_cons]
  exact ⟨rfl, rfl, seriesRearranges_turned l.series, List.forall_mem_nil _⟩

/-- The document of a ledger turned around can be read if the document can. -/
theorem readable_turned {l : Ledger} (h : l.toJson.Readable) : (turned l).Readable := by
  refine h.turned readable_strangeMember fun name field h => ?_
  unfold turnField
  split
  · exact h.turned (List.forall_mem_nil _) fun _ _ h =>
      h.mapItems fun _ h => EntryDraft.readable_turned h
  · exact h

end LedgerDraft

end PerfLedger
