import PerfLedger.Display.Listing
import PerfLedger.Proofs.Ledger.Runs
import PerfLedger.Proofs.Ledger.Series

/-! The names and the series of a tool cover its records: each record is one point of one series,
that of its name, for no entry has two records of one name.
-/

namespace PerfLedger

variable {e : Entry} {entries : List Entry} {name tool tool' : String} {r : Record}

-----------------------------------------------------------------------------------------
-- Records of an entry
-----------------------------------------------------------------------------------------

/-- The names of the records of an entry. -/
def Entry.names (e : Entry) : List String := e.records.map Record.name

theorem Entry.record?_eq_none_iff : e.record? name = none ↔ name ∉ e.names := by
  simp [record?, names]

/-- Where names are different the record of a name is the only one. -/
theorem Entry.record?_eq_some_iff (distinct : e.names.Nodup)
    : e.record? name = some r ↔ r ∈ e.records ∧ r.name = name := by
  constructor
  · intro found
    exact ⟨List.mem_of_find?_eq_some found, by simpa using List.find?_some found⟩
  · rintro ⟨member, rfl⟩
    cases found : e.record? r.name with
    | none => exact absurd (List.mem_map_of_mem member) (record?_eq_none_iff.mp found)
    | some other =>
        have same : other.name = r.name := by simpa using List.find?_some found
        rw [List.inj_on_of_nodup_map distinct (List.mem_of_find?_eq_some found) member same]

/-- What an entry adds to a series: its date and the value of its only record of that name. -/
def Entry.IsPoint (name : String) (e : Entry) (point : Int × Double) : Prop :=
  ∃ r ∈ e.records, r.name = name ∧ (∀ other ∈ e.records, other.name = name → other = r)
    ∧ point = (e.date, r.value)

-----------------------------------------------------------------------------------------
-- Points of entries
-----------------------------------------------------------------------------------------

namespace Ledger

theorem pointsOf_append (name : String) (left right : List Entry)
    : pointsOf name (left ++ right) = pointsOf name left ++ pointsOf name right :=
  List.filterMap_append

/-- An entry without the name adds nothing to the series. -/
theorem pointsOf_cons_of_not_mem (absent : name ∉ e.names) (entries : List Entry)
    : pointsOf name (e :: entries) = pointsOf name entries := by
  rw [pointsOf, List.filterMap_cons_none]
  · rfl
  · rw [Entry.record?_eq_none_iff.mpr absent]
    rfl

/-- A record is a point of the series of its name. -/
theorem pointsOf_cons (distinct : e.names.Nodup) (member : r ∈ e.records) (entries : List Entry)
    : pointsOf r.name (e :: entries) = (e.date, r.value) :: pointsOf r.name entries := by
  rw [pointsOf, List.filterMap_cons_some]
  · rfl
  · rw [(Entry.record?_eq_some_iff distinct).mpr ⟨member, rfl⟩]
    rfl

/-- The points of a series are those of the entries with its name, in their order. -/
theorem forall₂_pointsOf (distinct : ∀ e ∈ entries, e.names.Nodup) (name : String)
    : List.Forall₂ (Entry.IsPoint name) (entries.filter fun e => name ∈ e.names)
        (pointsOf name entries) := by
  induction entries with
  | nil => exact .nil
  | cons e entries ih =>
      obtain ⟨first, rest⟩ := List.forall_mem_cons.mp distinct
      by_cases present : name ∈ e.names
      · obtain ⟨r, member, rfl⟩ := List.mem_map.mp present
        rw [List.filter_cons_of_pos (by simpa using present), pointsOf_cons first member]
        refine .cons ⟨r, member, rfl, ?_, rfl⟩ (ih rest)
        exact fun other present same => List.inj_on_of_nodup_map first present member same
      · rw [List.filter_cons_of_neg (by simpa using present), pointsOf_cons_of_not_mem present]
        exact ih rest

theorem length_pointsOf (distinct : ∀ e ∈ entries, e.names.Nodup) (name : String)
    : (pointsOf name entries).length = (entries.filter fun e => name ∈ e.names).length :=
  (forall₂_pointsOf distinct name).length_eq.symm

theorem pointsOf_eq_nil_iff (distinct : ∀ e ∈ entries, e.names.Nodup)
    : pointsOf name entries = [] ↔ ∀ e ∈ entries, name ∉ e.names := by
  rw [← List.length_eq_zero_iff, length_pointsOf distinct, List.length_eq_zero_iff]
  simp [List.filter_eq_nil_iff]

/-- An entry adds one point to each series of its names, by induction on some of the names. -/
theorem sum_length_pointsOf_cons (distinct : e.names.Nodup) (names : List String)
    : (names.map fun name => (pointsOf name (e :: entries)).length).sum
      = names.countP (· ∈ e.names)
        + (names.map fun name => (pointsOf name entries).length).sum := by
  induction names with
  | nil => rfl
  | cons name names ih =>
      rw [List.map_cons, List.map_cons, List.sum_cons, List.sum_cons, ih]
      by_cases present : name ∈ e.names
      · rw [List.countP_cons_of_pos (by simpa using present)]
        obtain ⟨r, member, rfl⟩ := List.mem_map.mp present
        rw [pointsOf_cons distinct member, List.length_cons]
        omega
      · rw [List.countP_cons_of_neg (by simpa using present), pointsOf_cons_of_not_mem present]
        omega

/-- Of different names that include those of an entry, as many are names of the entry as it has
records.
-/
theorem countP_names {names : List String} (nodup : names.Nodup) (distinct : e.names.Nodup)
    (covered : ∀ name ∈ e.names, name ∈ names)
    : names.countP (· ∈ e.names) = e.records.length := by
  have same : (names.filter (· ∈ e.names)).Perm e.names := by
    refine (List.perm_ext_iff_of_nodup (nodup.filter _) distinct).mpr fun name => ?_
    simpa using covered name
  rw [List.countP_eq_length_filter, same.length_eq, Entry.names, List.length_map]

/-- The lengths of the series add up to the number of records, by induction on the entries. -/
theorem sum_length_pointsOf {names : List String} (nodup : names.Nodup)
    (distinct : ∀ e ∈ entries, e.names.Nodup)
    (covered : ∀ e ∈ entries, ∀ name ∈ e.names, name ∈ names)
    : (names.map fun name => (pointsOf name entries).length).sum
      = (entries.map fun e => e.records.length).sum := by
  induction entries with
  | nil => simp [pointsOf]
  | cons e entries ih =>
      obtain ⟨first, rest⟩ := List.forall_mem_cons.mp distinct
      obtain ⟨covers, further⟩ := List.forall_mem_cons.mp covered
      rw [sum_length_pointsOf_cons first, countP_names nodup first covers, ih rest further,
        List.map_cons, List.sum_cons]

-----------------------------------------------------------------------------------------
-- Names of a tool
-----------------------------------------------------------------------------------------

variable {l next : Ledger}

theorem mem_foldr_insertName {all : List String}
    : name ∈ all.foldr insertName [] ↔ name ∈ all := by
  induction all with
  | nil => simp
  | cons other all ih => rw [List.foldr_cons, mem_insertName, ih, List.mem_cons]

/-- The names of a tool are those of the records in its entries. -/
theorem mem_names : name ∈ l.names tool ↔ ∃ e ∈ l.entriesOf tool, name ∈ e.names := by
  rw [names, mem_foldr_insertName, List.mem_flatMap]
  rfl

/-- The names of a tool are in order, each once. -/
theorem sorted_names (l : Ledger) (tool : String) : (l.names tool).Pairwise (· < ·) := by
  unfold names
  induction (l.entriesOf tool).flatMap fun e => e.records.map Record.name with
  | nil => exact .nil
  | cons name all ih => exact sorted_insertName name ih

theorem Valid.forall_entriesOf (h : l.Valid) (tool : String)
    : ∀ e ∈ l.entriesOf tool, e.tool = tool ∧ e.Valid := by
  unfold entriesOf
  cases found : l.series.lookup tool with
  | none => exact List.forall_mem_nil _
  | some entries =>
      have member := mem_of_lookup found
      exact fun e recorded => ⟨h.keyed _ member e recorded, h.entries _ member e recorded⟩

/-- Entries of different names only, as in every ledger in order. -/
theorem Valid.distinct_names (h : l.Valid) (tool : String)
    : ∀ e ∈ l.entriesOf tool, e.names.Nodup :=
  fun e recorded => (h.forall_entriesOf tool e recorded).2.distinct

/-- The series of a tool have as many points as its entries have records. -/
theorem Valid.sum_length_points (h : l.Valid) (tool : String)
    : ((l.names tool).map fun name => (l.points tool name).length).sum
      = ((l.entriesOf tool).map fun e => e.records.length).sum := by
  have nodup : (l.names tool).Nodup :=
    (sorted_names l tool).imp fun before => by rintro rfl; exact String.lt_irrefl _ before
  exact sum_length_pointsOf nodup (h.distinct_names tool) fun e recorded name present =>
    mem_names.mpr ⟨e, recorded, present⟩

/-- A series has points if its name is one of the names, and else none. -/
theorem Valid.points_eq_nil_iff (h : l.Valid)
    : l.points tool name = [] ↔ name ∉ l.names tool := by
  rw [points, pointsOf_eq_nil_iff (h.distinct_names tool), mem_names]
  simp

-----------------------------------------------------------------------------------------
-- Additions
-----------------------------------------------------------------------------------------

/-- Each record of an added entry is the last point of the series of its name. -/
theorem Valid.points_append (h : l.Valid) (distinct : e.names.Nodup) (member : r ∈ e.records)
    (added : l.append tool e = .ok next)
    : next.points e.tool r.name = l.points e.tool r.name ++ [(e.date, r.value)] := by
  obtain ⟨rfl, -, -⟩ := append_eq_ok.mp added
  rw [points, entriesOf_append h.sorted added, if_pos rfl, pointsOf_append,
    pointsOf_cons distinct member]
  rfl

/-- Series of other tools, and of names that the added entry does not have, stay as they are. -/
theorem Valid.points_append_other (h : l.Valid) (added : l.append tool e = .ok next)
    (other : tool' = e.tool → name ∉ e.names)
    : next.points tool' name = l.points tool' name := by
  obtain ⟨rfl, -, -⟩ := append_eq_ok.mp added
  rw [points, entriesOf_append h.sorted added]
  split
  next same =>
    rw [pointsOf_append, pointsOf_cons_of_not_mem (other same)]
    exact List.append_nil _
  next => rfl

-----------------------------------------------------------------------------------------
-- Overviews
-----------------------------------------------------------------------------------------

/-- The benchmarks of a tool with the numbers of their points. -/
def pointCounts (l : Ledger) (tool : String) : List (String × Nat) :=
  (l.names tool).map fun name => (name, (l.points tool name).length)

end Ledger

/-- The line of a benchmark in an overview. -/
def benchmarkLine (benchmark : String × Nat) : String :=
  "  " ++ benchmark.1 ++ " (" ++ toString benchmark.2 ++ " points)\n"

/-- A detailed overview of a tool has a line more for each of its benchmarks. -/
theorem renderTool_detailed (colors : Bool) (l : Ledger) (tool : String)
    : renderTool colors true l tool
      = renderTool colors false l tool ++ String.join ((l.pointCounts tool).map benchmarkLine) := by
  simp only [renderTool, Ledger.pointCounts, List.map_map, Bool.false_eq_true, ↓reduceIte,
    String.join_nil, String.append_empty]
  rfl

namespace Ledger

variable {l : Ledger}

/-- The listed benchmarks of a tool are all that it has, and the numbers of their points are
positive and add up to the number of its records.
-/
theorem Valid.pointCounts (h : l.Valid) (tool : String)
    : (l.pointCounts tool).map Prod.fst = l.names tool
      ∧ (∀ benchmark ∈ l.pointCounts tool, 0 < benchmark.2)
      ∧ ((l.pointCounts tool).map Prod.snd).sum
        = ((l.entriesOf tool).map fun e => e.records.length).sum := by
  refine ⟨by simp [Ledger.pointCounts, Function.comp_def], ?_, ?_⟩
  · intro benchmark member
    obtain ⟨name, present, rfl⟩ := List.mem_map.mp member
    refine List.length_pos_iff.mpr fun nothing => ?_
    exact h.points_eq_nil_iff.mp nothing present
  · rw [← h.sum_length_points, Ledger.pointCounts, List.map_map]
    rfl

/-- In every ledger that a run leads to, and for every tool: the names are in order, each once, and
they are those of the records of the tool. A series has a point for each entry with a record of its
name, in the order of the entries, with the date of the entry and the value of that record; it has
points if its name is one of the names, and else none; and all series together have as many points
as there are records. An entry that is added extends the series of its tool and its names by one
point each, and it changes no other series of any tool. The detailed overview has all that the plain
one has, and under each tool a line for each of its names, with a positive number of points; these
numbers add up to the number of records.
-/
theorem points_of_run (repoUrl : String) (actions : List Action)
    : let l := run repoUrl actions
      (∀ tool,
        (l.names tool).Pairwise (· < ·)
        ∧ (∀ name, name ∈ l.names tool ↔ ∃ e ∈ l.entriesOf tool, ∃ r ∈ e.records, r.name = name)
        ∧ (∀ name, List.Forall₂ (Entry.IsPoint name)
            ((l.entriesOf tool).filter fun e => name ∈ e.names) (l.points tool name))
        ∧ (∀ name, l.points tool name = [] ↔ name ∉ l.names tool)
        ∧ ((l.names tool).map fun name => (l.points tool name).length).sum
          = ((l.entriesOf tool).map fun e => e.records.length).sum)
      ∧ (∀ (tool : String) (entry : MadeEntry) (next : Ledger), l.append tool entry = .ok next →
          entry.1.tool = tool
          ∧ (∀ r ∈ entry.1.records,
              next.points tool r.name = l.points tool r.name ++ [(entry.1.date, r.value)])
          ∧ ∀ other name, (other = tool → name ∉ entry.1.names) →
              next.points other name = l.points other name)
      ∧ (∀ colors, ∃ front,
          l.renderStatus colors false
            = front ++ String.join (l.tools.map (renderTool colors false l))
          ∧ l.renderStatus colors true
            = front ++ String.join (l.tools.map fun tool =>
                renderTool colors false l tool
                  ++ String.join ((l.pointCounts tool).map benchmarkLine)))
      ∧ l.tools.Pairwise (· < ·)
      ∧ ∀ tool,
          (tool ∈ l.tools ↔ l.entriesOf tool ≠ [])
          ∧ (l.pointCounts tool).map Prod.fst = l.names tool
          ∧ (∀ benchmark ∈ l.pointCounts tool, 0 < benchmark.2)
          ∧ ((l.pointCounts tool).map Prod.snd).sum
            = ((l.entriesOf tool).map fun e => e.records.length).sum := by
  have valid := valid_run repoUrl actions
  refine ⟨fun tool => ⟨sorted_names _ tool, ?_, ?_, fun name => valid.points_eq_nil_iff,
    valid.sum_length_points tool⟩, ?_, ?_, valid.sorted, fun tool => ⟨?_, valid.pointCounts tool⟩⟩
  · intro name
    simp [mem_names, Entry.names]
  · exact forall₂_pointsOf (valid.distinct_names tool)
  · intro tool entry next added
    obtain ⟨rfl, -, -⟩ := append_eq_ok.mp added
    refine ⟨rfl, fun r member => ?_, fun other name apart => ?_⟩
    · exact valid.points_append entry.2.valid.distinct member added
    · exact valid.points_append_other added apart
  · intro colors
    refine ⟨_, rfl, ?_⟩
    rw [← funext (renderTool_detailed colors (run repoUrl actions))]
    rfl
  · rw [← valid.latest?_isSome_iff]
    simp [latest?]

end Ledger

end PerfLedger
