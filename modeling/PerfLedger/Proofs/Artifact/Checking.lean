import PerfLedger.Proofs.Artifact.DraftRules
import PerfLedger.Proofs.Ledger.Series

/-! The check of a whole ledger of drafts. Series without a fault are recorded one after the
other, and the check stops at the first fault of the first series that has one.
-/

namespace PerfLedger

-----------------------------------------------------------------------------------------
-- One series
-----------------------------------------------------------------------------------------

/-- The entries that some drafts of one series come to, on different commits. -/
structure Builds (tool : String) (drafts : List EntryDraft) (entries : List Entry) : Prop where
  keyed : ∀ d ∈ drafts, d.tool = tool
  each : List.Forall₂ (fun d e => d.Yields (.ok e)) drafts entries
  distinct : (entries.map fun e => e.commit.id).Nodup

/-- A series without a fault: every draft names its tool and has no fault of its own, and the
commits differ.
-/
structure SeriesSound (tool : String) (drafts : List EntryDraft) : Prop where
  keyed : ∀ d ∈ drafts, d.tool = tool
  sound : ∀ d ∈ drafts, d.Sound
  distinct : (drafts.map fun d => d.commit.id).Nodup

/-- The first fault of a draft that comes after some others in its series. A foreign tool goes
first, then the faults of the draft itself, and last a commit that came before.
-/
inductive EntryDraft.Fault (tool : String) (earlier : List EntryDraft) (d : EntryDraft)
    : DecodeError → Prop where
  | foreign (other : d.tool ≠ tool)
      : Fault tool earlier d (.unreadable (.shape (.foreignTool earlier.length tool d.tool)))
  | bad {cause : EntryError} (own : d.tool = tool) (refused : d.Yields (.error cause))
      : Fault tool earlier d (.badEntry tool earlier.length cause)
  | repeated {old : EntryDraft} (own : d.tool = tool) (sound : d.Sound) (before : old ∈ earlier)
      (same : old.commit.id = d.commit.id)
      : Fault tool earlier d (.refused (.duplicateCommit tool d.commit.id))

theorem map_commit_of_yields {drafts : List EntryDraft} {entries : List Entry}
    (each : List.Forall₂ (fun d e => d.Yields (.ok e)) drafts entries)
    : (entries.map fun e => e.commit.id) = drafts.map fun d => d.commit.id := by
  induction each with
  | nil => rfl
  | cons first _ ih => exact List.cons_eq_cons.mpr ⟨congrArg Commit.id first.fields.1, ih⟩

theorem Builds.nonempty_iff {tool : String} {drafts : List EntryDraft} {entries : List Entry}
    (h : Builds tool drafts entries)
    : drafts ≠ [] ↔ entries ≠ [] := by
  rw [← List.length_pos_iff, ← List.length_pos_iff, h.each.length_eq]

theorem SeriesSound.exists_builds {tool : String} {drafts : List EntryDraft}
    (h : SeriesSound tool drafts)
    : ∃ entries, Builds tool drafts entries := by
  obtain ⟨entries, each⟩ :=
    exists_forall₂ fun d member => EntryDraft.sound_iff.mp (h.sound d member)
  exact ⟨entries, h.keyed, each, (map_commit_of_yields each).symm ▸ h.distinct⟩

/-- A series has no fault, or there is a first draft with one; by induction from the end of
the series.
-/
theorem seriesSound_or_fault (tool : String) (drafts : List EntryDraft)
    : SeriesSound tool drafts ∨ ∃ earlier d later cause,
        drafts = earlier ++ d :: later ∧ SeriesSound tool earlier ∧ d.Fault tool earlier cause := by
  induction drafts using List.reverseRecOn with
  | nil => exact .inl ⟨List.forall_mem_nil _, List.forall_mem_nil _, List.nodup_nil⟩
  | append_singleton drafts d ih =>
      rcases ih with sound | ⟨earlier, bad, later, cause, rfl, sound, fault⟩
      · by_cases own : d.tool = tool
        · obtain ⟨cause | e, outcome⟩ := d.exists_yields
          · exact .inr ⟨drafts, d, [], _, rfl, sound, .bad own outcome⟩
          · have good : d.Sound := EntryDraft.sound_iff.mpr ⟨e, outcome⟩
            by_cases repeated : ∃ old ∈ drafts, old.commit.id = d.commit.id
            · obtain ⟨old, before, same⟩ := repeated
              exact .inr ⟨drafts, d, [], _, rfl, sound, .repeated own good before same⟩
            · refine .inl ⟨?_, ?_, ?_⟩
              · exact List.forall_mem_append.mpr ⟨sound.keyed, List.forall_mem_singleton.mpr own⟩
              · exact List.forall_mem_append.mpr ⟨sound.sound, List.forall_mem_singleton.mpr good⟩
              · rw [List.map_append]
                refine sound.distinct.append (List.nodup_singleton _) ?_
                apply List.disjoint_singleton.mpr
                intro present
                exact repeated (List.mem_map.mp present)
        · exact .inr ⟨drafts, d, [], _, rfl, sound, .foreign own⟩
      · exact .inr ⟨earlier, bad, later ++ [d], cause, by simp, sound, fault⟩

namespace LedgerDraft

variable {tool : String} {done : List (String × List Entry)} {l : Ledger}

/-- Drafts without a fault are recorded at the end of the ledger, by induction on their number.
`before` holds the entries of their series that were recorded already.
-/
theorem checkEntries_append {before entries : List Entry} {earlier : List EntryDraft}
    (last : ∀ s ∈ done, s.1 < tool) (shape : l.series = done ++ Ledger.seriesOf tool before)
    (keyed : ∀ d ∈ earlier, d.tool = tool)
    (each : List.Forall₂ (fun d e => d.Yields (.ok e)) earlier entries)
    (distinct : ((before ++ entries).map fun e => e.commit.id).Nodup)
    (index : Nat) (later : List EntryDraft)
    : checkEntries tool index l (earlier ++ later)
      = checkEntries tool (index + earlier.length)
        { l with
          lastUpdate := (entries.map Entry.date).foldl max l.lastUpdate
          series := done ++ Ledger.seriesOf tool (before ++ entries) } later := by
  induction each generalizing before l index with
  | nil =>
      rw [List.append_nil, ← shape]
      rfl
  | @cons d e earlier entries first rest ih =>
      obtain ⟨own, keyed⟩ := List.forall_mem_cons.mp keyed
      have named : e.tool = tool := first.fields.2.2.trans own
      have order : before ++ e :: entries = before ++ [e] ++ entries := by simp
      have absent : l.hasCommit tool e.commit.id = false := by
        rw [List.map_append, List.nodup_append] at distinct
        rw [Ledger.hasCommit, Ledger.entriesOf_last last shape, List.any_eq_false]
        intro old recorded
        simpa using distinct.2.2 _ (List.mem_map_of_mem recorded) _ List.mem_cons_self
      have grown : Ledger.extend e l.series = done ++ Ledger.seriesOf tool (before ++ [e]) := by
        subst named
        rw [shape, Ledger.extend_last e last]
      have added := Ledger.append_eq_ok.mpr ⟨named, absent, rfl⟩
      rw [List.cons_append, checkEntries, if_neg (not_not_intro own), first.check_eq]
      simp only [added, grown]
      rw [ih rfl keyed (order ▸ distinct), order, List.length_cons, Nat.add_right_comm,
        Nat.add_assoc]
      rfl

/-- The ledger with one more series at its end. -/
def addBuilt (l : Ledger) (tool : String) (entries : List Entry) : Ledger :=
  { l with
    lastUpdate := (entries.map Entry.date).foldl max l.lastUpdate
    series := l.series ++ Ledger.seriesOf tool entries }

theorem checkEntries_builds {entries : List Entry} {earlier : List EntryDraft}
    (last : ∀ s ∈ l.series, s.1 < tool) (builds : Builds tool earlier entries)
    (later : List EntryDraft)
    : checkEntries tool 0 l (earlier ++ later)
      = checkEntries tool earlier.length (addBuilt l tool entries) later := by
  have shape : l.series = l.series ++ Ledger.seriesOf tool [] := by simp [Ledger.seriesOf]
  have recorded := checkEntries_append last shape builds.keyed builds.each builds.distinct 0 later
  rwa [Nat.zero_add] at recorded

/-- The check of a series stops at its first fault. -/
theorem checkEntries_fault {earlier : List EntryDraft} {d : EntryDraft} {cause : DecodeError}
    (last : ∀ s ∈ l.series, s.1 < tool) (sound : SeriesSound tool earlier)
    (fault : d.Fault tool earlier cause) (later : List EntryDraft)
    : checkEntries tool 0 l (earlier ++ d :: later) = .error cause := by
  obtain ⟨entries, builds⟩ := sound.exists_builds
  rw [checkEntries_builds last builds]
  cases fault with
  | foreign other => exact if_pos other
  | bad own refused =>
      rw [checkEntries, if_neg (not_not_intro own), refused.check_eq]
  | @repeated old own good before same =>
      obtain ⟨e, outcome⟩ := EntryDraft.sound_iff.mp good
      obtain ⟨commit, -, named⟩ := outcome.fields
      have found : (addBuilt l tool entries).entriesOf tool = entries :=
        Ledger.entriesOf_last last rfl
      have present : e.commit.id ∈ entries.map fun e => e.commit.id := by
        rw [map_commit_of_yields builds.each, commit, ← same]
        exact List.mem_map_of_mem before
      have recorded : (addBuilt l tool entries).hasCommit tool e.commit.id = true := by
        rw [Ledger.hasCommit_iff, found]
        exact List.mem_map.mp present
      have refused := Ledger.append_repeated (named.trans own) recorded
      rw [checkEntries, if_neg (not_not_intro own), outcome.check_eq]
      simp only [refused, commit]

-----------------------------------------------------------------------------------------
-- All series
-----------------------------------------------------------------------------------------

/-- Series of drafts and the series of entries that they come to. -/
def BuildsAll (series : List (String × List EntryDraft)) (built : List (String × List Entry))
    : Prop :=
  List.Forall₂ (fun s t => t.1 = s.1 ∧ Builds s.1 s.2 t.2) series built

/-- The ledger with some more series at its end, those left out that have no entries. -/
def addAllBuilt (l : Ledger) (built : List (String × List Entry)) : Ledger :=
  { l with
    lastUpdate := ((built.flatMap Prod.snd).map Entry.date).foldl max l.lastUpdate
    series := l.series ++ built.filter fun s => !s.2.isEmpty }

theorem addAllBuilt_cons (l : Ledger) (s : String × List Entry)
    (built : List (String × List Entry))
    : addAllBuilt l (s :: built) = addAllBuilt (addBuilt l s.1 s.2) built := by
  have first : (s :: built).filter (fun s => !s.2.isEmpty)
      = Ledger.seriesOf s.1 s.2 ++ built.filter fun s => !s.2.isEmpty := by
    by_cases empty : s.2 = []
    · simp [Ledger.seriesOf, empty]
    · simp [Ledger.seriesOf, empty]
  simp [addAllBuilt, addBuilt, first]

theorem BuildsAll.map_fst {series : List (String × List EntryDraft)}
    {built : List (String × List Entry)} (h : BuildsAll series built)
    : built.map Prod.fst = series.map Prod.fst := by
  induction h with
  | nil => rfl
  | cons first _ ih => exact List.cons_eq_cons.mpr ⟨first.1, ih⟩

theorem map_fst_addBuilt (l : Ledger) (tool : String) (entries : List Entry)
    : ((addBuilt l tool entries).series.map Prod.fst).Sublist
        (l.series.map Prod.fst ++ [tool]) := by
  have own : ((Ledger.seriesOf tool entries).map Prod.fst).Sublist [tool] := by
    unfold Ledger.seriesOf
    split
    · exact List.nil_sublist _
    · exact .refl _
  rw [addBuilt, List.map_append]
  exact own.append_left _

/-- Series without a fault are recorded in their order, by induction on their number. -/
theorem foldlM_checkEntries {series : List (String × List EntryDraft)}
    {built : List (String × List Entry)} (all : BuildsAll series built)
    (sorted : (l.series.map Prod.fst ++ series.map Prod.fst).Pairwise (· < ·))
    : series.foldlM (fun l (tool, entries) => checkEntries tool 0 l entries) l
      = .ok (addAllBuilt l built) := by
  induction all generalizing l with
  | nil =>
      simp only [addAllBuilt, List.filter_nil, List.append_nil]
      rfl
  | @cons s t series built first rest ih =>
      obtain ⟨own, builds⟩ := first
      have last : ∀ old ∈ l.series, old.1 < s.1 := fun old member =>
        (List.pairwise_append.mp sorted).2.2 _ (List.mem_map_of_mem member) _ List.mem_cons_self
      have checked : checkEntries s.1 0 l s.2 = .ok (addBuilt l s.1 t.2) := by
        have recorded := checkEntries_builds last builds []
        rwa [List.append_nil] at recorded
      have sortedNext
          : ((addBuilt l s.1 t.2).series.map Prod.fst ++ series.map Prod.fst).Pairwise
              (· < ·) := by
        refine List.Pairwise.sublist ((map_fst_addBuilt l s.1 t.2).append_right _) ?_
        rwa [List.append_assoc]
      rw [List.foldlM_cons, addAllBuilt_cons, own]
      exact (bind_eq_of_ok checked).trans (ih sortedNext)

variable {listing : LedgerDraft}

/-- A listing in order whose series have no fault comes to a ledger of their entries. -/
theorem check_eq_ok {built : List (String × List Entry)}
    (sorted : (listing.series.map Prod.fst).Pairwise (· < ·))
    (all : BuildsAll listing.series built)
    : listing.check
      = .ok {
          lastUpdate := ((built.flatMap Prod.snd).map Entry.date).foldl max
            (max 0 listing.lastUpdate)
          repoUrl := listing.repoUrl
          series := built.filter fun s => !s.2.isEmpty } := by
  have folded := foldlM_checkEntries (l := Ledger.new listing.repoUrl) all sorted
  have date (dates : List Int) (start : Int)
      : max (dates.foldl max start) listing.lastUpdate
        = dates.foldl max (max start listing.lastUpdate) := by
    induction dates generalizing start with
    | nil => rfl
    | cons date dates ih => rw [List.foldl_cons, ih, List.foldl_cons, max_right_comm]
  refine (bind_eq_of_ok folded).trans (congrArg Except.ok ?_)
  simp only [addAllBuilt, Ledger.new, List.nil_append, date]

/-- The check of a listing in order stops at the first fault of the first series with one. -/
theorem check_eq_error {before after : List (String × List EntryDraft)} {tool : String}
    {earlier later : List EntryDraft} {d : EntryDraft} {cause : DecodeError}
    (parts : listing.series = before ++ (tool, earlier ++ d :: later) :: after)
    (sorted : (listing.series.map Prod.fst).Pairwise (· < ·))
    (soundBefore : ∀ s ∈ before, SeriesSound s.1 s.2) (sound : SeriesSound tool earlier)
    (fault : d.Fault tool earlier cause)
    : listing.check = .error cause := by
  rw [parts, List.map_append, List.map_cons] at sorted
  obtain ⟨sortedBefore, -, cross⟩ := List.pairwise_append.mp sorted
  have each : ∀ s ∈ before, ∃ t : String × List Entry, t.1 = s.1 ∧ Builds s.1 s.2 t.2 := by
    intro s member
    obtain ⟨entries, builds⟩ := (soundBefore s member).exists_builds
    exact ⟨(s.1, entries), rfl, builds⟩
  obtain ⟨built, all⟩ := exists_forall₂ each
  have folded := foldlM_checkEntries (l := Ledger.new listing.repoUrl) all sortedBefore
  have last : ∀ s ∈ (addAllBuilt (Ledger.new listing.repoUrl) built).series, s.1 < tool := by
    intro s member
    have recorded : s ∈ built := List.mem_of_mem_filter member
    have named : s.1 ∈ before.map Prod.fst := by
      rw [← BuildsAll.map_fst all]
      exact List.mem_map_of_mem recorded
    exact cross _ named _ List.mem_cons_self
  have stopped := checkEntries_fault last sound fault later
  unfold check
  rw [parts, List.foldlM_append, bind_eq_of_ok folded, List.foldlM_cons,
    bind_eq_of_error stopped]
  rfl

end LedgerDraft

end PerfLedger
