import Mathlib.Data.List.Nodup
import Mathlib.Order.Defs.LinearOrder
import PerfLedger.Ledger.Equality
import PerfLedger.Proofs.Ledger.MadeEntries

/-! What holds of a ledger at all times. A new ledger is in order, an entry that is added
keeps it so, and a ledger that is read was built by adding its entries.
-/

namespace PerfLedger

-----------------------------------------------------------------------------------------
-- The invariant
-----------------------------------------------------------------------------------------

/-- A ledger is in order: its series stand in the order of their tools, none is empty, each
holds valid entries of its own tool and of different commits, and no entry is newer than the
last update.
-/
structure Ledger.Valid (l : Ledger) : Prop where
  sorted : l.tools.Pairwise (· < ·)
  nonempty : ∀ s ∈ l.series, s.2 ≠ []
  keyed : ∀ s ∈ l.series, ∀ e ∈ s.2, e.tool = s.1
  distinct : ∀ s ∈ l.series, (s.2.map fun e => e.commit.id).Nodup
  entries : ∀ s ∈ l.series, ∀ e ∈ s.2, e.Valid
  newest : ∀ s ∈ l.series, ∀ e ∈ s.2, e.date ≤ l.lastUpdate
  fromZero : 0 ≤ l.lastUpdate
  range : IsInt64 l.lastUpdate

/-- A new ledger is in order, having no series. -/
theorem Ledger.valid_new (repoUrl : String) : (Ledger.new repoUrl).Valid where
  sorted := List.Pairwise.nil
  nonempty := List.forall_mem_nil _
  keyed := List.forall_mem_nil _
  distinct := List.forall_mem_nil _
  entries := List.forall_mem_nil _
  newest := List.forall_mem_nil _
  fromZero := Int.le_refl 0
  range := show IsInt64 0 by decide

-----------------------------------------------------------------------------------------
-- Series
-----------------------------------------------------------------------------------------

theorem lt_of_not_lt_of_ne {left right : String} (before : ¬ left < right)
    (same : left ≠ right)
    : right < left :=
  String.not_le.mp fun le => same (String.le_antisymm le (String.not_lt.mp before))

/-- The series of a tool is found under its name. -/
theorem lookup_of_mem {α : Type} {tool : String} {value : α} {series : List (String × α)}
    (distinct : (series.map Prod.fst).Nodup) (member : (tool, value) ∈ series)
    : series.lookup tool = some value := by
  induction series with
  | nil => contradiction
  | cons head series ih =>
      obtain ⟨apart, distinct⟩ := List.nodup_cons.mp distinct
      rcases List.mem_cons.mp member with rfl | member
      · simp
      · have other : tool ≠ head.1 := by
          intro same
          subst same
          exact apart (List.mem_map.mpr ⟨_, member, rfl⟩)
        rw [List.lookup_cons, beq_eq_false_iff_ne.mpr other]
        exact ih distinct member

theorem isSome_lookup_iff {α : Type} {name : String} {list : List (String × α)}
    : (list.lookup name).isSome = true ↔ name ∈ list.map Prod.fst := by
  rw [Option.isSome_iff_ne_none, Ne, List.lookup_eq_none_iff, List.mem_map]
  simp only [not_forall, exists_prop, bne_iff_ne, ne_eq, not_not]
  exact exists_congr fun s => and_congr_right fun _ => eq_comm

theorem lookup_eq_none {α : Type} {name : String} {list : List (String × α)}
    (absent : name ∉ list.map Prod.fst)
    : list.lookup name = none :=
  Option.not_isSome_iff_eq_none.mp fun found => absent (isSome_lookup_iff.mp found)

/-- A name that comes after all others is not among them. -/
theorem not_mem_of_last {α : Type} {name : String} {list : List (String × α)}
    (last : ∀ s ∈ list, s.1 < name)
    : name ∉ list.map Prod.fst := by
  intro present
  obtain ⟨s, member, rfl⟩ := List.mem_map.mp present
  exact String.lt_irrefl _ (last s member)

/-- What is found under a name is there. -/
theorem mem_of_lookup {α : Type} {tool : String} {value : α} {series : List (String × α)}
    (found : series.lookup tool = some value)
    : (tool, value) ∈ series := by
  induction series with
  | nil => contradiction
  | cons head series ih =>
      rw [List.lookup_cons] at found
      split at found
      next same =>
        obtain rfl := eq_of_beq same
        obtain rfl := Option.some.inj found
        exact List.mem_cons_self
      next => exact List.mem_cons_of_mem _ (ih found)

namespace Ledger

theorem Valid.nodup {l : Ledger} (h : l.Valid) : (l.series.map Prod.fst).Nodup :=
  List.Pairwise.imp (fun before => by rintro rfl; exact String.lt_irrefl _ before) h.sorted

theorem mem_extend {entry : Entry} {series : List (String × List Entry)}
    {s : String × List Entry} (member : s ∈ extend entry series)
    : s ∈ series ∨ s = (entry.tool, [entry])
      ∨ ∃ entries, (entry.tool, entries) ∈ series ∧ s = (entry.tool, entries ++ [entry]) := by
  induction series with
  | nil => exact .inr (.inl (List.mem_singleton.mp member))
  | cons head series ih =>
      unfold extend at member
      split at member
      next =>
        rcases List.mem_cons.mp member with rfl | old
        · exact .inr (.inl rfl)
        · exact .inl old
      next =>
        split at member
        next same =>
          rcases List.mem_cons.mp member with rfl | old
          · exact .inr (.inr ⟨head.2, by simp [same], by simp [same]⟩)
          · exact .inl (List.mem_cons_of_mem _ old)
        next =>
          rcases List.mem_cons.mp member with rfl | later
          · exact .inl List.mem_cons_self
          · rcases ih later with old | new | ⟨entries, old, longer⟩
            · exact .inl (List.mem_cons_of_mem _ old)
            · exact .inr (.inl new)
            · exact .inr (.inr ⟨entries, List.mem_cons_of_mem _ old, longer⟩)

theorem map_fst_extend (entry : Entry) (series : List (String × List Entry))
    : (extend entry series).map Prod.fst = insertName entry.tool (series.map Prod.fst) := by
  induction series with
  | nil => rfl
  | cons head series ih =>
      unfold extend insertName
      split
      next before => simp [before]
      next before =>
        split
        next same => simp [same]
        next other => simp [before, other, ih]

theorem mem_insertName {name other : String} {names : List String}
    : other ∈ insertName name names ↔ other = name ∨ other ∈ names := by
  induction names with
  | nil => simp [insertName]
  | cons head names ih =>
      unfold insertName
      split
      · simp
      · split
        next same => simp [same]
        next => simp [ih, or_left_comm]

/-- Names in order stay so when one is added, by induction on their number. -/
theorem sorted_insertName (name : String) {names : List String}
    (sorted : names.Pairwise (· < ·))
    : (insertName name names).Pairwise (· < ·) := by
  induction names with
  | nil => exact List.pairwise_singleton _ _
  | cons head names ih =>
      obtain ⟨first, rest⟩ := List.pairwise_cons.mp sorted
      unfold insertName
      split
      next before =>
        refine List.pairwise_cons.mpr ⟨?_, sorted⟩
        intro other member
        rcases List.mem_cons.mp member with rfl | member
        · exact before
        · exact String.lt_trans before (first other member)
      next before =>
        split
        next => exact sorted
        next other =>
          refine List.pairwise_cons.mpr ⟨?_, ih rest⟩
          intro next member
          rcases mem_insertName.mp member with rfl | member
          · exact lt_of_not_lt_of_ne before other
          · exact first next member

-----------------------------------------------------------------------------------------
-- Additions
-----------------------------------------------------------------------------------------

/-- An entry is added to the series of its tool, unless its commit is there already. -/
theorem append_eq_ok {l next : Ledger} {tool : String} {entry : Entry}
    : l.append tool entry = .ok next
      ↔ entry.tool = tool ∧ l.hasCommit tool entry.commit.id = false
        ∧ next = { l with
          lastUpdate := max l.lastUpdate entry.date
          series := extend entry l.series } := by
  unfold append
  by_cases foreign : entry.tool = tool
  · by_cases repeated : l.hasCommit tool entry.commit.id = true
    · simp [foreign, repeated]
    · simp [foreign, repeated, eq_comm]
  · simp [foreign]

theorem hasCommit_iff {l : Ledger} {tool commitId : String}
    : l.hasCommit tool commitId = true ↔ ∃ e ∈ l.entriesOf tool, e.commit.id = commitId := by
  simp [hasCommit]

/-- A foreign entry is refused as such, whether its commit is there or not. -/
theorem append_foreign {l : Ledger} {tool : String} {entry : Entry} (foreign : entry.tool ≠ tool)
    : l.append tool entry = .error (.toolMismatch tool entry.tool) := by
  rw [append, if_pos foreign]

theorem append_repeated {l : Ledger} {tool : String} {entry : Entry} (own : entry.tool = tool)
    (repeated : l.hasCommit tool entry.commit.id = true)
    : l.append tool entry = .error (.duplicateCommit tool entry.commit.id) := by
  rw [append, if_neg (not_not_intro own), if_pos repeated]

/-- A commit that is not recorded for a tool is in no entry of its series. -/
theorem Valid.not_mem_of_hasCommit {l : Ledger} (h : l.Valid) {tool commitId : String}
    (absent : l.hasCommit tool commitId = false) {entries : List Entry}
    (member : (tool, entries) ∈ l.series)
    : commitId ∉ entries.map fun e => e.commit.id := by
  intro present
  obtain ⟨e, recorded, same⟩ := List.mem_map.mp present
  have found : l.entriesOf tool = entries := by
    rw [entriesOf, lookup_of_mem h.nodup member, Option.getD_some]
  have present : l.hasCommit tool commitId = true := by
    rw [hasCommit, found]
    exact List.any_eq_true.mpr ⟨e, recorded, beq_iff_eq.mpr same⟩
  rw [present] at absent
  contradiction

/-- A fact about the series of a grown ledger: it holds of the old series, of a new one and
of one that has become longer.
-/
theorem forall_mem_extend {P : String × List Entry → Prop} {entry : Entry}
    {series : List (String × List Entry)} (old : ∀ s ∈ series, P s)
    (new : P (entry.tool, [entry]))
    (longer : ∀ entries, (entry.tool, entries) ∈ series → P (entry.tool, entries ++ [entry]))
    : ∀ s ∈ extend entry series, P s := by
  intro s member
  rcases mem_extend member with present | rfl | ⟨entries, present, rfl⟩
  · exact old s present
  · exact new
  · exact longer entries present

/-- A fact about all entries of a grown ledger: it holds of the old ones and of the new. -/
theorem forall_entries_extend {P : String → Entry → Prop} {entry : Entry}
    {series : List (String × List Entry)} (old : ∀ s ∈ series, ∀ e ∈ s.2, P s.1 e)
    (new : P entry.tool entry)
    : ∀ s ∈ extend entry series, ∀ e ∈ s.2, P s.1 e := by
  refine forall_mem_extend old (List.forall_mem_singleton.mpr new) ?_
  intro entries present
  exact List.forall_mem_append.mpr ⟨old _ present, List.forall_mem_singleton.mpr new⟩

/-- Adding an entry in order keeps a ledger in order. -/
theorem Valid.append {l next : Ledger} {tool : String} {entry : Entry} (h : l.Valid)
    (valid : entry.Valid) (added : l.append tool entry = .ok next)
    : next.Valid := by
  obtain ⟨rfl, absent, rfl⟩ := append_eq_ok.mp added
  have newer : l.lastUpdate ≤ max l.lastUpdate entry.date := le_max_left _ _
  constructor
  case sorted =>
    rw [tools, map_fst_extend]
    exact sorted_insertName _ h.sorted
  case nonempty => exact forall_mem_extend h.nonempty (by simp) (by simp)
  case keyed =>
    exact forall_entries_extend (P := fun tool e => e.tool = tool) h.keyed rfl
  case distinct =>
    refine forall_mem_extend h.distinct (by simp) ?_
    intro entries present
    rw [List.map_append, List.nodup_append]
    refine ⟨h.distinct _ present, by simp, ?_⟩
    rintro id member other added rfl
    obtain rfl : id = entry.commit.id := List.mem_singleton.mp added
    exact h.not_mem_of_hasCommit absent present member
  case entries => exact forall_entries_extend (P := fun _ e => e.Valid) h.entries valid
  case newest =>
    refine forall_entries_extend (P := fun _ e => e.date ≤ _) ?_ (le_max_right _ _)
    exact fun s member e recorded => (h.newest s member e recorded).trans newer
  case fromZero => exact h.fromZero.trans newer
  case range => exact ⟨h.range.1.trans newer, max_lt h.range.2 valid.date.2⟩

/-- A later last update keeps a ledger in order. -/
theorem Valid.touch {l : Ledger} (h : l.Valid) {date : Int} (range : IsInt64 date)
    : Ledger.Valid { l with lastUpdate := max l.lastUpdate date } where
  sorted := h.sorted
  nonempty := h.nonempty
  keyed := h.keyed
  distinct := h.distinct
  entries := h.entries
  newest := fun s member e recorded =>
    (h.newest s member e recorded).trans (le_max_left _ _)
  fromZero := h.fromZero.trans (le_max_left _ _)
  range := ⟨h.range.1.trans (le_max_left _ _), max_lt h.range.2 range.2⟩

end Ledger

end PerfLedger
