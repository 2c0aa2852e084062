import PerfLedger.Proofs.Ledger.Invariant

/-! Whatever a program does to its ledger, the ledger stays in order: it may start anew, load
any text and add any entries, and what fails leaves the ledger as it is.
-/

namespace PerfLedger

-----------------------------------------------------------------------------------------
-- Ledgers that are read
-----------------------------------------------------------------------------------------

/-- A member of a sorted list with one more is the new one or an old one. -/
theorem mem_insertSorted {α : Type} {name : String} {value : α} {list : List (String × α)}
    {s : String × α} (member : s ∈ insertSorted name value list)
    : s = (name, value) ∨ s ∈ list := by
  induction list with
  | nil => exact .inl (List.mem_singleton.mp member)
  | cons head list ih =>
      unfold insertSorted at member
      split at member
      · exact List.mem_cons.mp member
      · split at member
        · rcases List.mem_cons.mp member with new | old
          · exact .inl new
          · exact .inr (List.mem_cons_of_mem _ old)
        · rcases List.mem_cons.mp member with first | later
          · exact .inr (first ▸ List.mem_cons_self)
          · exact (ih later).imp_right (List.mem_cons_of_mem _)

namespace LedgerDraft

/-- All dates of some series are of 64 bits. -/
def Dated (series : List (String × List EntryDraft)) : Prop :=
  ∀ s ∈ series, ∀ e ∈ s.2, IsInt64 e.date

/-- A series that is read has dates of 64 bits. -/
theorem dated_addSeries {depth : Nat} {done next : List (String × List EntryDraft)}
    {member : Option String × Tree} (dated : Dated done)
    (h : addSeries depth done member = .ok next)
    : Dated next := by
  obtain ⟨tool, _, h⟩ := bind_eq_ok.mp h
  dsimp only at h
  split at h
  · obtain ⟨_, failed, _⟩ := bind_eq_ok.mp h
    contradiction
  · obtain ⟨entries, read, h⟩ := bind_eq_ok.mp h
    obtain rfl := Except.ok.inj h
    intro s present e recorded
    rcases mem_insertSorted present with rfl | old
    · obtain ⟨item, read⟩ := Tree.mem_of_readList read e recorded
      exact EntryDraft.date_of_read read
    · exact dated s old e recorded

/-- All series that are read have dates of 64 bits. -/
theorem dated_readSeries {depth : Nat} {tree : Tree}
    {series : List (String × List EntryDraft)} (h : readSeries depth tree = .ok series)
    : Dated series := by
  unfold readSeries at h
  split at h
  · obtain ⟨read, folded, h⟩ := bind_eq_ok.mp h
    obtain ⟨_, _, h⟩ := bind_eq_ok.mp h
    obtain rfl := Except.ok.inj h
    exact foldlM_invariant Dated (fun _ _ _ _ dated added => dated_addSeries dated added)
      (List.forall_mem_nil _) folded
  · exact absurd h (Tree.mismatch_ne_ok _ _ _)

/-- The dates of a ledger that is read are of 64 bits. -/
theorem dated_of_read {depth : Nat} {tree : Tree} {draft : LedgerDraft}
    (h : (shape depth).read tree = .ok draft)
    : IsInt64 draft.lastUpdate ∧ Dated draft.series := by
  obtain ⟨fields, kept, finished⟩ :=
    RecordShape.read_kept
      (fun fields => (∀ date ∈ fields.lastUpdate, IsInt64 date)
        ∧ ∀ series ∈ fields.series, Dated series)
      (by simp [shape])
      (by
        intro fields name tree next kept set
        simp only [shape, Draft.set] at set
        split at set
        case h_1 =>
          obtain ⟨date, read, set⟩ := bind_eq_ok.mp set
          obtain rfl := Except.ok.inj set
          exact ⟨fun other same => Option.some.inj same ▸ Tree.readInt64_ok read, kept.2⟩
        case h_2 =>
          obtain ⟨_, _, set⟩ := bind_eq_ok.mp set
          exact Except.ok.inj set ▸ kept
        case h_3 =>
          obtain ⟨series, read, set⟩ := bind_eq_ok.mp set
          obtain rfl := Except.ok.inj set
          exact ⟨kept.1, fun other same => Option.some.inj same ▸ dated_readSeries read⟩
        case h_4 => exact Except.ok.inj set ▸ kept)
      h
  obtain ⟨date, givenDate, finished⟩ := bind_eq_ok.mp finished
  obtain ⟨_, _, finished⟩ := bind_eq_ok.mp finished
  obtain ⟨series, givenSeries, finished⟩ := bind_eq_ok.mp finished
  obtain rfl := Except.ok.inj finished
  exact ⟨kept.1 date (requireField_ok givenDate), kept.2 series (requireField_ok givenSeries)⟩

/-- Checked entries are added to a ledger in order, by induction on their number. -/
theorem valid_of_checkEntries {tool : String} {index : Nat} {l next : Ledger}
    {drafts : List EntryDraft} (valid : l.Valid) (dated : ∀ e ∈ drafts, IsInt64 e.date)
    (h : checkEntries tool index l drafts = .ok next)
    : next.Valid := by
  induction drafts generalizing index l with
  | nil => exact Except.ok.inj h ▸ valid
  | cons draft drafts ih =>
      obtain ⟨range, dated⟩ := List.forall_mem_cons.mp dated
      unfold checkEntries at h
      split at h
      next => contradiction
      next =>
        split at h
        next => contradiction
        next entry checked =>
          split at h
          next => contradiction
          next grown added =>
            exact ih (valid.append (EntryDraft.valid_of_check range checked) added) dated h

/-- The ledger of a draft with dates of 64 bits is in order. -/
theorem valid_of_check {draft : LedgerDraft} {l : Ledger} (range : IsInt64 draft.lastUpdate)
    (dated : Dated draft.series) (h : draft.check = .ok l)
    : l.Valid := by
  obtain ⟨built, folded, h⟩ := bind_eq_ok.mp h
  obtain rfl := Except.ok.inj h
  have valid : built.Valid := by
    refine foldlM_invariant Ledger.Valid ?_ (Ledger.valid_new draft.repoUrl) folded
    exact fun s member l next valid grown =>
      valid_of_checkEntries valid (dated s member) grown
  exact valid.touch range

end LedgerDraft

/-- A ledger that is read from a text is in order. -/
theorem Ledger.valid_of_decode {text : String} {l : Ledger} (h : Ledger.decode text = .ok l)
    : l.Valid := by
  obtain ⟨payload, _, h⟩ := bind_eq_ok.mp h
  obtain ⟨draft, read, checked⟩ := bind_eq_ok.mp h
  obtain ⟨range, dated⟩ :=
    LedgerDraft.dated_of_read (readDocument_ok (orUnreadable_ok read)).1
  exact LedgerDraft.valid_of_check range dated checked

-----------------------------------------------------------------------------------------
-- Runs
-----------------------------------------------------------------------------------------

/-- An entry together with the way it was made. -/
abbrev MadeEntry := { e : Entry // e.Made }

/-- An entry of one record in which nothing is left out, for a commit of one repeated digit. -/
def Entry.annotated (digit : Fin 10) (value : Double) : Entry where
  commit := {
    author := ⟨"a@b", "A", some "a"⟩
    committer := ⟨"c@d", "C", none⟩
    distinct := some true
    id := String.ofList (List.replicate 40 (Nat.digitChar digit))
    message := "m"
    timestamp := "t"
    treeId := some "f"
    url := "u"
  }
  date := digit
  tool := "bench"
  records := [⟨"b", value, "s", some "± 1", some "x"⟩]

/-- That entry as it is made of a value that is admitted. -/
def MadeEntry.annotated (digit : Fin 10) (value : Double)
    (admitted : value.isFiniteNonnegative = true)
    : MadeEntry where
  val := .annotated digit value
  property := by
    obtain ⟨finite, nonnegative⟩ := (Double.isFiniteNonnegative_iff value).mp admitted
    have digits : ∀ digit : Fin 10, '0' ≤ Nat.digitChar digit ∧ Nat.digitChar digit ≤ '9' := by
      decide
    have commit := isObjectName_replicate (digits digit)
    have tool : isBlankText "bench" = false := by decide
    have named : isBlankText "b" = false := by decide
    have date : IsInt64 (digit : Nat) := by
      unfold IsInt64
      omega
    refine Entry.made_iff_valid.mpr ⟨tool, commit, date, nofun, List.nodup_singleton _, ?_⟩
    exact List.forall_mem_singleton.mpr ⟨named, finite, nonnegative⟩

/-- What a program may do to its ledger. -/
inductive Action where
  | new (repoUrl : String)
  | load (text : String)
  | append (tool : String) (entry : MadeEntry)

namespace Ledger

/-- The ledger after an action. What cannot be loaded or added leaves it as it is. -/
def step (l : Ledger) : Action → Ledger
  | .new repoUrl => Ledger.new repoUrl
  | .load text => (Ledger.decode text).toOption.getD l
  | .append tool entry => (l.append tool entry).toOption.getD l

/-- The ledger after some actions on a new one. -/
def run (repoUrl : String) (actions : List Action) : Ledger :=
  actions.foldl step (Ledger.new repoUrl)

/-- The ledger of a repository with one such entry for each of some commits. -/
abbrev annotated (digits : List (Fin 10)) (value : Double)
    (admitted : value.isFiniteNonnegative = true)
    : Ledger :=
  run "repo" (digits.map fun digit => .append "bench" (.annotated digit value admitted))

/-- Every action keeps a ledger in order. -/
theorem Valid.step {l : Ledger} (h : l.Valid) (action : Action) : (l.step action).Valid := by
  cases action with
  | new repoUrl => exact valid_new repoUrl
  | load text =>
      unfold Ledger.step
      dsimp only
      cases read : Ledger.decode text with
      | error => exact h
      | ok loaded => exact valid_of_decode read
  | append tool entry =>
      unfold Ledger.step
      dsimp only
      cases added : l.append tool entry with
      | error => exact h
      | ok next => exact h.append entry.2.valid added

/-- Every run ends in a ledger in order, by induction on its actions. -/
theorem valid_run (repoUrl : String) (actions : List Action) : (run repoUrl actions).Valid := by
  have runs {l : Ledger} (h : l.Valid) : (actions.foldl Ledger.step l).Valid := by
    induction actions generalizing l with
    | nil => exact h
    | cons action actions ih => exact ih (h.step action)
  exact runs (valid_new repoUrl)

-----------------------------------------------------------------------------------------
-- Two ways to look at a ledger
-----------------------------------------------------------------------------------------

/-- A ledger in order is empty exactly when it holds no entry, for no series is empty. -/
theorem Valid.isEmpty_iff {l : Ledger} (h : l.Valid) : l.isEmpty = true ↔ l.size = 0 := by
  unfold isEmpty size
  cases shape : l.series with
  | nil => simp
  | cons s series =>
      have recorded : s.2 ≠ [] := h.nonempty s (shape ▸ List.mem_cons_self)
      simp [recorded]

/-- A ledger in order has a latest entry of a tool exactly when it lists the tool. -/
theorem Valid.latest?_isSome_iff {l : Ledger} (h : l.Valid) (tool : String)
    : (l.latest? tool).isSome = true ↔ tool ∈ l.tools := by
  have last : (l.latest? tool).isSome = true ↔ l.entriesOf tool ≠ [] := by
    simp [latest?]
  rw [last, tools, List.mem_map]
  constructor
  · intro recorded
    cases found : l.series.lookup tool with
    | none => simp [entriesOf, found] at recorded
    | some entries => exact ⟨(tool, entries), mem_of_lookup found, rfl⟩
  · intro given
    obtain ⟨⟨_, entries⟩, member, rfl⟩ := given
    rw [entriesOf, lookup_of_mem h.nodup member]
    exact h.nonempty _ member

/-- In every ledger that a run leads to: the series are keyed by the tools of their entries
and none is empty, each holds different commits, every entry has records of different names
with values that are finite and not below zero, and no entry is newer than the last update.
So a ledger is empty exactly when its size is zero, and the tools it lists are those with a
latest entry.
-/
theorem invariant_of_run (repoUrl : String) (actions : List Action)
    : let l := run repoUrl actions
      l.tools.Pairwise (· < ·)
      ∧ (∀ s ∈ l.series,
          s.2 ≠ []
          ∧ isBlankText s.1 = false
          ∧ (s.2.map fun e => e.commit.id).Nodup
          ∧ ∀ e ∈ s.2,
              e.tool = s.1
              ∧ IsObjectName e.commit.id
              ∧ e.records ≠ []
              ∧ (e.records.map Record.name).Nodup
              ∧ (∀ r ∈ e.records,
                  isBlankText r.name = false
                  ∧ r.value.isFinite = true
                  ∧ r.value.lt (.zero false) = false)
              ∧ e.date ≤ l.lastUpdate)
      ∧ 0 ≤ l.lastUpdate
      ∧ (l.isEmpty = true ↔ l.size = 0)
      ∧ ∀ tool, (l.latest? tool).isSome = true ↔ tool ∈ l.tools := by
  have valid := valid_run repoUrl actions
  refine ⟨valid.sorted, ?_, valid.fromZero, valid.isEmpty_iff, valid.latest?_isSome_iff⟩
  intro s member
  have named : isBlankText s.1 = false := by
    obtain ⟨e, rest, shape⟩ := List.exists_cons_of_ne_nil (valid.nonempty s member)
    have recorded : e ∈ s.2 := shape ▸ List.mem_cons_self
    rw [← valid.keyed s member e recorded]
    exact (valid.entries s member e recorded).tool
  refine ⟨valid.nonempty s member, named, valid.distinct s member, ?_⟩
  intro e recorded
  have entry := valid.entries s member e recorded
  refine ⟨valid.keyed s member e recorded, entry.commit, entry.nonempty, entry.distinct, ?_,
    valid.newest s member e recorded⟩
  intro r measured
  have record := entry.records r measured
  exact ⟨record.named, record.finite, record.nonnegative⟩

end Ledger

end PerfLedger
