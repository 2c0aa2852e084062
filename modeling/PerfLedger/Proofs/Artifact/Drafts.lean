import PerfLedger.Artifact.Codec
import PerfLedger.Proofs.Artifact.ScriptData
import PerfLedger.Proofs.Ledger.Invariant

/-! The data of a ledger is read as its draft, part by part, whatever its numbers are. Absent
fields are left out of the data and stay absent.
-/

namespace PerfLedger

-----------------------------------------------------------------------------------------
-- People and commits
-----------------------------------------------------------------------------------------

/-- The object of a person is read as that person. -/
theorem Person.read_toJson (p : Person) : shape.read p.toJson.tree = .ok p := by
  obtain ⟨email, name, username⟩ := p
  unfold toJson
  cases username
  all_goals
    refine RecordShape.read_object ⟨some email, some name, _⟩ ?_ ?_ rfl rfl
    · simp [shape, Json.optional]
    · simp [Json.optional]

/-- The object of a commit is read as that commit. -/
theorem Commit.read_toJson (c : Commit) : shape.read c.toJson.tree = .ok c := by
  obtain ⟨author, committer, distinct, id, message, timestamp, treeId, url⟩ := c
  have first : Draft.set {} "author" author.toJson.tree = .ok { author := some author } :=
    bind_eq_ok.mpr ⟨author, Person.read_toJson author, rfl⟩
  have second
      : Draft.set { author := some author } "committer" committer.toJson.tree
        = .ok { author := some author, committer := some committer } :=
    bind_eq_ok.mpr ⟨committer, Person.read_toJson committer, rfl⟩
  unfold toJson
  cases distinct <;> cases treeId
  all_goals
    refine RecordShape.read_object
      ⟨some author, some committer, _, some id, some message, some timestamp, _, some url⟩
      ?_ ?_ ?_ rfl
    · simp [shape, Json.optional]
    · simp [Json.optional]
    · exact bind_eq_ok.mpr ⟨_, first, bind_eq_ok.mpr ⟨_, second, rfl⟩⟩

theorem Commit.read_data (c : Commit) : shape.read c.data.tree = .ok c := by
  rw [← toJson_eq_data, read_toJson]

-----------------------------------------------------------------------------------------
-- Records and entries
-----------------------------------------------------------------------------------------

/-- A number is read as itself, however deep it is nested. -/
theorem Tree.readJson_number (depth : Nat) (number : JsonNumber)
    : Tree.readJson depth (.number number) = .ok (.number number) := by
  cases depth <;> rfl

section Numbers

variable (number : Double → JsonNumber)

/-- The draft that the data of a record is read as. -/
def Record.draftWith (r : Record) : RecordDraft :=
  ⟨some r.name, some (.number (number r.value)), some r.unit, r.range, r.extra⟩

/-- The data of a record is read as its draft. -/
theorem Record.read_data (depth : Nat) (r : Record)
    : (RecordDraft.shape depth).read (r.data number).tree = .ok (r.draftWith number) := by
  obtain ⟨name, value, unit, range, extra⟩ := r
  have second
      : RecordDraft.set (depth - 1) { RecordDraft.empty with name := some name } "value"
          (Json.number (number value)).tree
        = .ok { RecordDraft.empty with
          name := some name
          value := some (.number (number value)) } := by
    refine bind_eq_ok.mpr ⟨some (.number (number value)), ?_, rfl⟩
    exact congrArg (some <$> ·) (Tree.readJson_number _ _)
  unfold data Json.fields
  cases range <;> cases extra
  all_goals
    refine RecordShape.read_object _ ?_ ?_
      (bind_eq_ok.mpr ⟨_, rfl, bind_eq_ok.mpr ⟨_, second, rfl⟩⟩) rfl
    · simp [RecordDraft.shape]
    · simp

/-- The draft that the data of an entry is read as. -/
def Entry.draftWith (e : Entry) : EntryDraft :=
  ⟨e.commit, e.date, e.tool, e.records.map (Record.draftWith number)⟩

/-- The data of an entry is read as its draft, if its date is one of 64 bits. -/
theorem Entry.read_data (depth : Nat) {e : Entry} (range : IsInt64 e.date)
    : (EntryDraft.shape depth).read (e.data number).tree = .ok (e.draftWith number) := by
  obtain ⟨commit, date, tool, records⟩ := e
  have first
      : EntryDraft.Draft.set (depth - 1) {} "commit" commit.data.tree
        = .ok { commit := some commit } :=
    bind_eq_ok.mpr ⟨commit, Commit.read_data commit, rfl⟩
  have second
      : EntryDraft.Draft.set (depth - 1) { commit := some commit } "date" (Json.int date).tree
        = .ok { commit := some commit, date := some date } := by
    refine bind_eq_ok.mpr ⟨date, ?_, rfl⟩
    exact if_pos range
  have fourth
      : Tree.readList (RecordDraft.shape (depth - 1 - 1)).read
          (Json.array (records.map (Record.data number))).tree
        = .ok (records.map (Record.draftWith number)) :=
    Tree.readList_array fun r _ => Record.read_data number _ r
  rw [data_eq]
  refine RecordShape.read_object
    ⟨some commit, some date, some tool, some (records.map (Record.draftWith number))⟩ ?_ ?_ ?_ rfl
  · simp [EntryDraft.shape]
  · simp
  · refine bind_eq_ok.mpr ⟨_, first, bind_eq_ok.mpr ⟨_, second, ?_⟩⟩
    exact bind_eq_ok.mpr ⟨_, rfl, bind_eq_ok.mpr ⟨_, bind_eq_ok.mpr ⟨_, fourth, rfl⟩, rfl⟩⟩

end Numbers

/-- The draft that a written entry is read as. -/
def Entry.draft (e : Entry) : EntryDraft := e.draftWith Record.valueNumber

/-- The object of an entry is read as its draft, if its date is one of 64 bits. -/
theorem Entry.read_toJson (depth : Nat) {e : Entry} (range : IsInt64 e.date)
    : (EntryDraft.shape depth).read e.toJson.tree = .ok e.draft := by
  rw [toJson_eq_data]
  exact read_data Record.valueNumber depth range

-----------------------------------------------------------------------------------------
-- Ledgers
-----------------------------------------------------------------------------------------

theorem insertSorted_last {α : Type} {name : String} (value : α) {list : List (String × α)}
    (last : ∀ s ∈ list, s.1 < name)
    : insertSorted name value list = list ++ [(name, value)] := by
  induction list with
  | nil => rfl
  | cons head list ih =>
      obtain ⟨first, last⟩ := List.forall_mem_cons.mp last
      have other : name ≠ head.1 := by
        intro same
        subst same
        exact String.lt_irrefl _ first
      rw [insertSorted, if_neg (String.lt_asymm first), if_neg other, ih last, List.cons_append]

namespace Ledger

/-- The members written for the series of a ledger. -/
def seriesMembers (series : List (String × List Entry)) : List (String × Json) :=
  series.map fun s => (s.1, .array (s.2.map Entry.toJson))

section Numbers

variable (number : Double → JsonNumber)

/-- The drafts that the data of series is read as. -/
def seriesDraftsWith (series : List (String × List Entry)) : List (String × List EntryDraft) :=
  series.map fun s => (s.1, s.2.map (Entry.draftWith number))

/-- Series in order are read one after the other, by induction on their number. -/
theorem foldlM_addSeries (depth : Nat) {series : List (String × List Entry)}
    {done : List (String × List EntryDraft)}
    (sorted : (series.map Prod.fst).Pairwise (· < ·))
    (after : ∀ s ∈ series, ∀ old ∈ done, old.1 < s.1)
    (dated : ∀ s ∈ series, ∀ e ∈ s.2, IsInt64 e.date)
    : (Json.memberTrees
          (series.map fun s => (s.1, .array (s.2.map (Entry.data number))))).foldlM
        (LedgerDraft.addSeries depth) done
      = .ok (done ++ seriesDraftsWith number series) := by
  induction series generalizing done with
  | nil => exact congrArg Except.ok (List.append_nil done).symm
  | cons s series ih =>
      obtain ⟨before, sorted⟩ := List.pairwise_cons.mp sorted
      obtain ⟨afterFirst, afterRest⟩ := List.forall_mem_cons.mp after
      obtain ⟨datedFirst, datedRest⟩ := List.forall_mem_cons.mp dated
      have read
          : Tree.readList (EntryDraft.shape (depth - 1)).read
              (Json.array (s.2.map (Entry.data number))).tree
            = .ok (s.2.map (Entry.draftWith number)) :=
        Tree.readList_array fun e member => Entry.read_data number _ (datedFirst e member)
      have added
          : LedgerDraft.addSeries depth done
              (some s.1, (Json.array (s.2.map (Entry.data number))).tree)
            = .ok (done ++ [(s.1, s.2.map (Entry.draftWith number))]) := by
        refine bind_eq_ok.mpr ⟨s.1, rfl, ?_⟩
        rw [lookup_eq_none (not_mem_of_last afterFirst)]
        refine bind_eq_ok.mpr ⟨_, read, ?_⟩
        exact congrArg Except.ok (insertSorted_last _ afterFirst)
      have afterNext
          : ∀ later ∈ series, ∀ old ∈ done ++ [(s.1, s.2.map (Entry.draftWith number))],
              old.1 < later.1 := by
        intro later member
        refine List.forall_mem_append.mpr ⟨afterRest later member, ?_⟩
        exact List.forall_mem_singleton.mpr (before _ (List.mem_map_of_mem member))
      have rest := ih sorted afterNext datedRest
      rw [List.append_assoc] at rest
      exact bind_eq_ok.mpr ⟨_, added, rest⟩

/-- The draft that the data of a ledger is read as. -/
def draftWith (l : Ledger) : LedgerDraft :=
  ⟨l.lastUpdate, l.repoUrl, seriesDraftsWith number l.series⟩

/-- The data of a ledger is read as its draft, if its series stand in order. -/
theorem read_data (depth : Nat) {l : Ledger} (range : IsInt64 l.lastUpdate)
    (sorted : l.tools.Pairwise (· < ·)) (dated : ∀ s ∈ l.series, ∀ e ∈ s.2, IsInt64 e.date)
    : (LedgerDraft.shape depth).read (l.data number).tree = .ok (l.draftWith number) := by
  have first
      : LedgerDraft.Draft.set (depth - 1) {} "lastUpdate" (Json.int l.lastUpdate).tree
        = .ok { lastUpdate := some l.lastUpdate } := by
    refine bind_eq_ok.mpr ⟨l.lastUpdate, ?_, rfl⟩
    exact if_pos range
  have folded := foldlM_addSeries number (depth - 1 - 1) sorted
    (fun _ _ => List.forall_mem_nil _) dated
  have third
      : LedgerDraft.readSeries (depth - 1 - 1)
          (Json.object
            (l.series.map fun s => (s.1, .array (s.2.map (Entry.data number))))).tree
        = .ok (seriesDraftsWith number l.series) :=
    bind_eq_ok.mpr ⟨_, folded, rfl⟩
  rw [data_eq]
  refine RecordShape.read_object
    ⟨some l.lastUpdate, some l.repoUrl, some (seriesDraftsWith number l.series)⟩ ?_ ?_ ?_ rfl
  · simp [LedgerDraft.shape]
  · simp
  · refine bind_eq_ok.mpr ⟨_, first, bind_eq_ok.mpr ⟨_, rfl, ?_⟩⟩
    exact bind_eq_ok.mpr ⟨_, bind_eq_ok.mpr ⟨_, third, rfl⟩, rfl⟩

end Numbers

end Ledger

end PerfLedger
