import Mathlib.Data.List.Perm.Basic
import PerfLedger.Proofs.Ledger.Invariant

/-! Documents of the shape of an artifact, with their series as they are listed: in any order,
and a tool more than once. An artifact is read as such a listing put in order, and refused for
the first tool that comes again.
-/

namespace PerfLedger

namespace LedgerDraft

-----------------------------------------------------------------------------------------
-- Listings
-----------------------------------------------------------------------------------------

/-- Reads one series as it is listed. -/
def readOne (depth : Nat) (member : Option String × Tree)
    : Except ReadError (String × List EntryDraft) := do
  let tool ← readName member.1
  let entries ← member.2.readList (EntryDraft.shape (depth - 1)).read
  return (tool, entries)

/-- Reads the series of all tools as they are listed. -/
def readListed (depth : Nat) : Tree → Except ReadError (List (String × List EntryDraft))
  | .object members closing => do
      let series ← members.mapM (readOne depth)
      requireNoFault closing.fault?
      return series
  | other => other.mismatch "a map of tool names to entry lists"

/-- Reads one field of a listing. -/
def Draft.setListed (depth : Nat) (draft : Draft) (field : String) (tree : Tree)
    : Except ReadError Draft :=
  match field with
  | "entries" => return { draft with series := some (← readListed (depth - 1) tree) }
  | other => draft.set depth other tree

/-- The shape of an artifact whose series are kept as they are listed. -/
def listedShape (depth : Nat) : RecordShape Draft LedgerDraft :=
  { shape depth with set := Draft.setListed (depth - 1) }

/-- A text is an artifact in shape: what it holds beside the script is a document with the
fields of a ledger, and `listing` is what they are.
-/
def Lists (text : String) (listing : LedgerDraft) : Prop :=
  ∃ payload, Artifact.payload text.toList = .ok payload
    ∧ readDocument (listedShape maxDepth).read payload = .ok listing

-----------------------------------------------------------------------------------------
-- Order
-----------------------------------------------------------------------------------------

/-- Puts one series in its place, unless its tool has one. -/
def place (done : List (String × List EntryDraft)) (s : String × List EntryDraft)
    : Except ReadError (List (String × List EntryDraft)) :=
  if (done.lookup s.1).isSome then ShapeError.fail (.duplicateSeries s.1)
  else .ok (insertSorted s.1 s.2 done)

/-- A listing with its series in order. -/
def ordered (listing : LedgerDraft) : Except ReadError LedgerDraft :=
  (fun series => { listing with series }) <$> listing.series.foldlM place []

theorem map_fst_insertSorted {α : Type} (name : String) (value : α) (list : List (String × α))
    : (insertSorted name value list).map Prod.fst
      = Ledger.insertName name (list.map Prod.fst) := by
  induction list with
  | nil => rfl
  | cons head list ih =>
      simp only [insertSorted, Ledger.insertName, List.map_cons]
      split
      · rfl
      · split
        next same => rw [List.map_cons, same]
        next => rw [List.map_cons, ih]

theorem insertSorted_perm {α : Type} {name : String} (value : α) {list : List (String × α)}
    (absent : name ∉ list.map Prod.fst)
    : (insertSorted name value list).Perm ((name, value) :: list) := by
  induction list with
  | nil => exact .refl _
  | cons head list ih =>
      rw [List.map_cons, List.mem_cons, not_or] at absent
      simp only [insertSorted]
      split
      · exact .refl _
      · rw [if_neg absent.1]
        exact (List.Perm.cons head (ih absent.2)).trans (List.Perm.swap _ _ _)

/-- Series of different tools are put in order, by induction on their number. -/
theorem foldlM_place (done : List (String × List EntryDraft))
    {series : List (String × List EntryDraft)}
    (sorted : (done.map Prod.fst).Pairwise (· < ·))
    (distinct : ((done ++ series).map Prod.fst).Nodup)
    : ∃ result, series.foldlM place done = .ok result
        ∧ (result.map Prod.fst).Pairwise (· < ·) ∧ result.Perm (done ++ series) := by
  induction series generalizing done with
  | nil => exact ⟨done, rfl, sorted, by rw [List.append_nil]⟩
  | cons s series ih =>
      have absent : s.1 ∉ done.map Prod.fst := by
        rw [List.map_append, List.nodup_append'] at distinct
        exact fun present => distinct.2.2 present List.mem_cons_self
      have inserted : (insertSorted s.1 s.2 done).Perm (s :: done) := insertSorted_perm s.2 absent
      have all : (insertSorted s.1 s.2 done ++ series).Perm (done ++ s :: series) :=
        (inserted.append_right series).trans List.perm_middle.symm
      have sortedNext : ((insertSorted s.1 s.2 done).map Prod.fst).Pairwise (· < ·) := by
        rw [map_fst_insertSorted]
        exact Ledger.sorted_insertName _ sorted
      have placed : place done s = .ok (insertSorted s.1 s.2 done) :=
        if_neg fun found => absent (isSome_lookup_iff.mp found)
      obtain ⟨result, folded, order, perm⟩ :=
        ih _ sortedNext ((all.map Prod.fst).nodup_iff.mpr distinct)
      exact ⟨result, bind_eq_ok.mpr ⟨_, placed, folded⟩, order, perm.trans all⟩

/-- A listing of different tools is put in order. -/
theorem exists_ordered {listing : LedgerDraft} (distinct : (listing.series.map Prod.fst).Nodup)
    : ∃ series, listing.ordered = .ok { listing with series }
        ∧ (series.map Prod.fst).Pairwise (· < ·) ∧ series.Perm listing.series := by
  obtain ⟨series, folded, sorted, perm⟩ := foldlM_place [] .nil distinct
  exact ⟨series, map_eq_ok.mpr ⟨series, folded, rfl⟩, sorted, perm⟩

/-- A listing is refused for the first tool that comes again. -/
theorem ordered_eq_error {listing : LedgerDraft} {before after : List (String × List EntryDraft)}
    {tool : String} {entries : List EntryDraft}
    (parts : listing.series = before ++ (tool, entries) :: after)
    (distinct : (before.map Prod.fst).Nodup) (repeated : tool ∈ before.map Prod.fst)
    : listing.ordered = .error (.shape (.duplicateSeries tool)) := by
  obtain ⟨done, folded, _, perm⟩ := foldlM_place [] .nil distinct
  have present : tool ∈ done.map Prod.fst := (perm.map Prod.fst).mem_iff.mpr repeated
  have refused : place done (tool, entries) = .error (.shape (.duplicateSeries tool)) :=
    if_pos (isSome_lookup_iff.mpr present)
  rw [ordered, parts, List.foldlM_append, bind_eq_of_ok folded, List.foldlM_cons,
    bind_eq_of_error refused]
  rfl

-----------------------------------------------------------------------------------------
-- Reading
-----------------------------------------------------------------------------------------

/-- Series that are read one after the other are put in order as they come. -/
theorem foldlM_addSeries {depth : Nat} {members : List (Option String × Tree)}
    {series : List (String × List EntryDraft)} (read : members.mapM (readOne depth) = .ok series)
    (done : List (String × List EntryDraft))
    : members.foldlM (addSeries depth) done = series.foldlM place done := by
  induction members generalizing series done with
  | nil =>
      obtain rfl := Except.ok.inj read
      rfl
  | cons member members ih =>
      rw [List.mapM_cons] at read
      obtain ⟨s, first, read⟩ := bind_eq_ok.mp read
      obtain ⟨rest, others, read⟩ := bind_eq_ok.mp read
      obtain rfl := Except.ok.inj read
      obtain ⟨tool, named, first⟩ := bind_eq_ok.mp first
      obtain ⟨entries, listed, first⟩ := bind_eq_ok.mp first
      obtain rfl := Except.ok.inj first
      have added : addSeries depth done member = place done (tool, entries) := by
        unfold addSeries place
        rw [bind_eq_of_ok named]
        split
        · rfl
        · exact bind_eq_of_ok listed
      rw [List.foldlM_cons, List.foldlM_cons, added]
      exact congrArg _ (funext fun next => ih others next)

theorem readSeries_eq {depth : Nat} {tree : Tree} {series : List (String × List EntryDraft)}
    (read : readListed depth tree = .ok series)
    : readSeries depth tree = series.foldlM place [] := by
  unfold readListed at read
  split at read
  next members closing =>
    obtain ⟨listed, each, read⟩ := bind_eq_ok.mp read
    obtain ⟨_, closed, read⟩ := bind_eq_ok.mp read
    obtain rfl := Except.ok.inj read
    rw [readSeries, foldlM_addSeries each]
    cases folded : listed.foldlM place [] with
    | error cause => rfl
    | ok result => exact bind_eq_of_ok closed
  next => exact absurd read (Tree.mismatch_ne_ok _ _ _)

/-- A draft with its series in order, if they have been read. -/
def Draft.ordered (draft : Draft) : Except ReadError Draft :=
  match draft.series with
  | none => .ok draft
  | some series =>
      (fun series => { draft with series := some series }) <$> series.foldlM place []

variable {depth : Nat} {draft next : Draft}

/-- A change that has nothing to do with series can be made before or after they are put in
order.
-/
theorem Draft.ordered_change {field : String} {tree : Tree} (change : Draft → Draft)
    (sets : ∀ draft : Draft, draft.set depth field tree = .ok (change draft))
    (keeps : ∀ draft, (change draft).series = draft.series)
    (commutes : ∀ (draft : Draft) series,
      change { draft with series } = { change draft with series })
    : (draft.ordered >>= fun draft => draft.set depth field tree) = (change draft).ordered := by
  simp only [sets]
  unfold Draft.ordered
  rw [keeps]
  cases draft.series with
  | none => rfl
  | some series =>
      cases folded : series.foldlM place [] with
      | error cause => simp only [folded]; rfl
      | ok result =>
          simp only [folded]
          exact congrArg Except.ok (commutes draft (some result))

/-- A field is read the same in both shapes, but for the order of series. -/
theorem Draft.ordered_set {field : String} {tree : Tree}
    (read : draft.setListed depth field tree = .ok next)
    (fresh : field = "entries" → draft.series = none)
    : (draft.ordered >>= fun draft => draft.set depth field tree) = next.ordered
      ∧ (field ≠ "entries" → next.series = draft.series) := by
  unfold setListed at read
  split at read
  case h_1 =>
    obtain ⟨series, listed, read⟩ := bind_eq_ok.mp read
    obtain rfl := Except.ok.inj read
    have nothing : draft.ordered = .ok draft := by
      unfold Draft.ordered
      rw [fresh rfl]
    refine ⟨?_, fun other => absurd rfl other⟩
    rw [bind_eq_of_ok nothing]
    simp only [Draft.set, readSeries_eq listed, Draft.ordered]
    rfl
  case h_2 other =>
    unfold Draft.set at read
    split at read
    case h_1 =>
      obtain ⟨date, value, read⟩ := bind_eq_ok.mp read
      obtain rfl := Except.ok.inj read
      refine ⟨ordered_change (fun draft => { draft with lastUpdate := some date }) ?_
        (fun _ => rfl) (fun _ _ => rfl), fun _ => rfl⟩
      exact fun draft => bind_eq_of_ok value
    case h_2 =>
      obtain ⟨url, value, read⟩ := bind_eq_ok.mp read
      obtain rfl := Except.ok.inj read
      refine ⟨ordered_change (fun draft => { draft with repoUrl := some url }) ?_
        (fun _ => rfl) (fun _ _ => rfl), fun _ => rfl⟩
      exact fun draft => bind_eq_of_ok value
    case h_3 => exact absurd rfl other
    case h_4 lastUpdate repoUrl entries =>
      obtain rfl := Except.ok.inj read
      refine ⟨ordered_change id (fun draft => ?_) (fun _ => rfl) (fun _ _ => rfl),
        fun _ => rfl⟩
      simp only [Draft.set]
      rfl

/-- Fields of different names are read the same in both shapes, by induction on them. -/
theorem Draft.ordered_foldlM_set {fields : List (String × Tree)}
    (distinct : (fields.map Prod.fst).Nodup)
    (fresh : "entries" ∈ fields.map Prod.fst → draft.series = none)
    (read : fields.foldlM (fun draft f => setListed depth draft f.1 f.2) draft = .ok next)
    : (draft.ordered >>= fun draft =>
        fields.foldlM (fun draft f => Draft.set depth draft f.1 f.2) draft)
      = next.ordered := by
  induction fields generalizing draft with
  | nil =>
      obtain rfl := Except.ok.inj read
      exact bind_pure _
  | cons field fields ih =>
      obtain ⟨apart, distinct⟩ := List.nodup_cons.mp distinct
      obtain ⟨middle, first, read⟩ := bind_eq_ok.mp read
      have freshFirst : field.1 = "entries" → draft.series = none :=
        fun same => fresh (same ▸ List.mem_cons_self)
      obtain ⟨set, kept⟩ := ordered_set first freshFirst
      have freshRest : "entries" ∈ fields.map Prod.fst → middle.series = none := by
        intro present
        have other : field.1 ≠ "entries" := fun same => apart (same ▸ present)
        rw [kept other]
        exact fresh (List.mem_cons_of_mem _ present)
      simp only [List.foldlM_cons]
      rw [← bind_assoc, set]
      exact ih distinct freshRest read

/-- A member is taken the same in both shapes, and no second list of series is. -/
theorem ordered_takeMember {member : Option String × Tree} {seen names : List String}
    (taken : (listedShape depth).takeMember (seen, draft) member = .ok (names, next))
    (known : draft.series ≠ none → "entries" ∈ seen)
    : (draft.ordered >>= fun draft => (shape depth).takeMember (seen, draft) member)
        = (fun next => (names, next)) <$> next.ordered
      ∧ (next.series ≠ none → "entries" ∈ names) := by
  obtain ⟨name, named, taken⟩ := bind_eq_ok.mp taken
  have strict (draft : Draft)
      : (shape depth).takeMember (seen, draft) member
        = if name ∈ (shape depth).fields then
            if name ∈ seen then ShapeError.fail (.duplicateField name)
            else
              draft.set (depth - 1) name member.2 >>= fun next => pure (name :: seen, next)
          else requireNoFault member.2.skippedFault? >>= fun _ => pure (seen, draft) :=
    bind_eq_of_ok named
  simp only [strict, map_eq_pure_bind]
  split at taken
  next field =>
    split at taken
    next => contradiction
    next first =>
      obtain ⟨_, set, taken⟩ := bind_eq_ok.mp taken
      obtain ⟨rfl, rfl⟩ := Prod.mk.inj (Except.ok.inj taken)
      have fresh : name = "entries" → draft.series = none := by
        rintro rfl
        exact Classical.byContradiction fun present => first (known present)
      obtain ⟨ordered, kept⟩ := Draft.ordered_set set fresh
      refine ⟨?_, fun present => ?_⟩
      · simp only [if_pos (show name ∈ (shape depth).fields from field), if_neg first]
        rw [← bind_assoc, ordered]
      · by_cases same : name = "entries"
        · exact same ▸ List.mem_cons_self
        · exact List.mem_cons_of_mem _ (known (kept same ▸ present))
  next skipped =>
    obtain ⟨_, clear, taken⟩ := bind_eq_ok.mp taken
    obtain ⟨rfl, rfl⟩ := Prod.mk.inj (Except.ok.inj taken)
    refine ⟨?_, known⟩
    simp only [if_neg (show name ∉ (shape depth).fields from skipped), bind_eq_of_ok clear]

/-- Members are taken the same in both shapes, by induction on them. -/
theorem ordered_foldlM_takeMember {members : List (Option String × Tree)}
    {seen names : List String}
    (taken : members.foldlM (listedShape depth).takeMember (seen, draft) = .ok (names, next))
    (known : draft.series ≠ none → "entries" ∈ seen)
    : (draft.ordered >>= fun draft => members.foldlM (shape depth).takeMember (seen, draft))
      = (fun next => (names, next)) <$> next.ordered := by
  induction members generalizing seen draft with
  | nil =>
      obtain ⟨rfl, rfl⟩ := Prod.mk.inj (Except.ok.inj taken)
      exact (map_eq_pure_bind _ _).symm
  | cons member members ih =>
      obtain ⟨⟨middleNames, middle⟩, first, rest⟩ := bind_eq_ok.mp taken
      obtain ⟨ordered, known⟩ := ordered_takeMember first known
      simp only [List.foldlM_cons]
      rw [← bind_assoc, ordered, map_eq_pure_bind, bind_assoc]
      exact ih rest known

/-- A draft of a listing in order is the draft of the ordered listing. -/
theorem Draft.ordered_finish {listing : LedgerDraft} (finished : draft.finish = .ok listing)
    : draft.ordered
      = (fun l : LedgerDraft => ⟨some l.lastUpdate, some l.repoUrl, some l.series⟩)
        <$> listing.ordered := by
  obtain ⟨lastUpdate, repoUrl, series⟩ := draft
  obtain ⟨date, given, finished⟩ := bind_eq_ok.mp finished
  obtain ⟨url, givenUrl, finished⟩ := bind_eq_ok.mp finished
  obtain ⟨listed, givenSeries, finished⟩ := bind_eq_ok.mp finished
  obtain rfl := Except.ok.inj finished
  obtain rfl : lastUpdate = some date := requireField_ok given
  obtain rfl : repoUrl = some url := requireField_ok givenUrl
  obtain rfl : series = some listed := requireField_ok givenSeries
  simp only [Draft.ordered, LedgerDraft.ordered, Functor.map_map]

/-- An object is read as its listing put in order. -/
theorem readMembers_eq_ordered {members : List (Option String × Tree)} {closing : Closing}
    {listing : LedgerDraft} (read : (listedShape depth).readMembers members closing = .ok listing)
    : (shape depth).readMembers members closing = listing.ordered := by
  obtain ⟨names, draft, taken, clear, finished⟩ := RecordShape.readMembers_eq_ok.mp read
  have folded := ordered_foldlM_takeMember taken (fun present => absurd rfl present)
  rw [Draft.ordered_finish finished] at folded
  cases order : listing.ordered with
  | error cause =>
      rw [order] at folded
      exact bind_eq_of_error folded
  | ok l =>
      rw [order] at folded
      exact RecordShape.readMembers_eq_ok.mpr ⟨names, _, folded, clear, rfl⟩

/-- An array is read as its listing put in order. -/
theorem readItems_eq_ordered {items : List Tree} {closing : Closing} {listing : LedgerDraft}
    (read : (listedShape depth).readItems items closing = .ok listing)
    : (shape depth).readItems items closing = listing.ordered := by
  obtain ⟨draft, set, clear, fits, finished⟩ := RecordShape.readItems_eq_ok.mp read
  have distinct : (((shape depth).fields.zip items).map Prod.fst).Nodup := by
    have fields : ["lastUpdate", "repoUrl", "entries"].Nodup := by decide
    exact fields.sublist (map_fst_zip_sublist _ items)
  have folded := Draft.ordered_foldlM_set distinct (fun _ => rfl) set
  rw [Draft.ordered_finish finished] at folded
  cases order : listing.ordered with
  | error cause =>
      rw [order] at folded
      exact bind_eq_of_error folded
  | ok l =>
      rw [order] at folded
      exact RecordShape.readItems_eq_ok.mpr ⟨_, folded, clear, fits, rfl⟩

/-- A tree is read as its listing put in order. -/
theorem read_eq_ordered {tree : Tree} {listing : LedgerDraft}
    (read : (listedShape depth).read tree = .ok listing)
    : (shape depth).read tree = listing.ordered := by
  unfold RecordShape.read at read
  split at read
  · exact readMembers_eq_ordered read
  · exact readItems_eq_ordered read
  · exact absurd read (Tree.mismatch_ne_ok _ _ _)

/-- A text in the shape of an artifact is decoded by putting its listing in order and then
checking it.
-/
theorem Lists.decode_eq {text : String} {listing : LedgerDraft} (lists : Lists text listing)
    : Ledger.decode text = (orUnreadable listing.ordered >>= check) := by
  obtain ⟨payload, stripped, read⟩ := lists
  obtain ⟨listed, value, read⟩ := bind_eq_ok.mp read
  have strict
      : readDocument (shape maxDepth).read payload = listing.ordered := by
    unfold readDocument
    dsimp only at read ⊢
    split at read
    next => contradiction
    next closed =>
      obtain rfl := Except.ok.inj read
      rw [read_eq_ordered value]
      cases listed.ordered with
      | error cause => rfl
      | ok l => exact if_neg closed
  unfold Ledger.decode
  rw [stripped]
  refine (bind_eq_of_ok rfl).trans ?_
  rw [strict]

end LedgerDraft

end PerfLedger
