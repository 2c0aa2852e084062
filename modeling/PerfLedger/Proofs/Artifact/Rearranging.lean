import PerfLedger.Proofs.Artifact.Listings
import PerfLedger.Proofs.Json.Rearranging

/-! Ledgers in another arrangement: the members of records and the tools in another order, and
members of unknown names in the records. Each is read as the same ledger.
-/

namespace PerfLedger

-----------------------------------------------------------------------------------------
-- People and commits
-----------------------------------------------------------------------------------------

/-- The same person in another arrangement. -/
def Person.Rearranges : Tree → Tree → Prop := Rearranged Person.shape.fields fun _ => Eq

theorem Person.commutes : Person.shape.Commutes := by
  intro a b fieldA fieldB apart start middle result x y first second
  simp only [shape, List.mem_cons, List.not_mem_nil, or_false] at fieldA fieldB
  rcases fieldA with rfl | rfl | rfl <;> rcases fieldB with rfl | rfl | rfl
  all_goals
    first
    | contradiction
    | (apply RecordShape.store_swap start middle first second
       exact fun _ _ => rfl)

theorem Commit.commutes : Commit.shape.Commutes := by
  intro a b fieldA fieldB apart start middle result x y first second
  simp only [shape, List.mem_cons, List.not_mem_nil, or_false] at fieldA fieldB
  rcases fieldA with rfl | rfl | rfl | rfl | rfl | rfl | rfl | rfl
    <;> rcases fieldB with rfl | rfl | rfl | rfl | rfl | rfl | rfl | rfl
  all_goals
    first
    | contradiction
    | (apply RecordShape.store_swap start middle first second
       exact fun _ _ => rfl)

namespace Commit

/-- A field of a commit in another arrangement. -/
def FieldRearranges : String → Tree → Tree → Prop
  | "author" => Person.Rearranges
  | "committer" => Person.Rearranges
  | _ => Eq

/-- The same commit in another arrangement. -/
def Rearranges : Tree → Tree → Prop := Rearranged shape.fields FieldRearranges

theorem respects : shape.Respects FieldRearranges := by
  intro name _ x x' same whole start next set
  unfold FieldRearranges at same
  split at same
  case h_3 => exact same ▸ set
  all_goals
    obtain ⟨person, read, set⟩ := bind_eq_ok.mp set
    refine bind_eq_ok.mpr ⟨person, ?_, set⟩
    exact RecordShape.read_rearranged Person.commutes RecordShape.respects_eq same whole read

theorem relates : shape.Relates FieldRearranges where
  field := by
    intro name _ x start next set
    unfold FieldRearranges
    split
    case h_3 => rfl
    all_goals
      obtain ⟨person, read, _⟩ := bind_eq_ok.mp set
      exact RecordShape.rearranged_self RecordShape.relates_eq read
  other := by
    intro name unknown x
    unfold FieldRearranges
    split
    case h_3 => rfl
    all_goals exact absurd (by simp [shape]) unknown

end Commit

-----------------------------------------------------------------------------------------
-- Records and entries
-----------------------------------------------------------------------------------------

/-- The same record in another arrangement. -/
def RecordDraft.Rearranges : Tree → Tree → Prop :=
  Rearranged (RecordDraft.shape 0).fields fun _ => Eq

theorem RecordDraft.commutes (depth : Nat) : (shape depth).Commutes := by
  intro a b fieldA fieldB apart start middle result x y first second
  simp only [shape, List.mem_cons, List.not_mem_nil, or_false] at fieldA fieldB
  rcases fieldA with rfl | rfl | rfl | rfl | rfl <;> rcases fieldB with rfl | rfl | rfl | rfl | rfl
  all_goals
    first
    | contradiction
    | (apply RecordShape.store_swap start middle first second
       exact fun _ _ => rfl)

namespace EntryDraft

/-- A field of an entry in another arrangement. -/
def FieldRearranges : String → Tree → Tree → Prop
  | "commit" => Commit.Rearranges
  | "benches" => EachRearranged RecordDraft.Rearranges
  | _ => Eq

/-- The same entry in another arrangement. -/
def Rearranges : Tree → Tree → Prop := Rearranged (shape 0).fields FieldRearranges

theorem commutes (depth : Nat) : (shape depth).Commutes := by
  intro a b fieldA fieldB apart start middle result x y first second
  simp only [shape, List.mem_cons, List.not_mem_nil, or_false] at fieldA fieldB
  rcases fieldA with rfl | rfl | rfl | rfl <;> rcases fieldB with rfl | rfl | rfl | rfl
  all_goals
    first
    | contradiction
    | (apply RecordShape.store_swap start middle first second
       exact fun _ _ => rfl)

theorem respects (depth : Nat) : (shape depth).Respects FieldRearranges := by
  intro name _ x x' same whole start next set
  unfold FieldRearranges at same
  split at same
  case h_1 =>
    obtain ⟨commit, read, set⟩ := bind_eq_ok.mp set
    refine bind_eq_ok.mpr ⟨commit, ?_, set⟩
    exact RecordShape.read_rearranged Commit.commutes Commit.respects same whole read
  case h_2 =>
    obtain ⟨records, read, set⟩ := bind_eq_ok.mp set
    refine bind_eq_ok.mpr ⟨records, Tree.readList_rearranged ?_ same whole read, set⟩
    exact fun related => RecordShape.read_rearranged (RecordDraft.commutes _)
      RecordShape.respects_eq related
  case h_3 => exact same ▸ set

theorem relates (depth : Nat) : (shape depth).Relates FieldRearranges where
  field := by
    intro name _ x start next set
    unfold FieldRearranges
    split
    case h_1 =>
      obtain ⟨commit, read, _⟩ := bind_eq_ok.mp set
      exact RecordShape.rearranged_self Commit.relates read
    case h_2 =>
      obtain ⟨records, read, _⟩ := bind_eq_ok.mp set
      refine Tree.eachRearranged_self (fun read => ?_) read
      have arranged := RecordShape.rearranged_self RecordShape.relates_eq read
      exact arranged
    case h_3 => rfl
  other := by
    intro name unknown x
    unfold FieldRearranges
    split
    case h_3 => rfl
    all_goals exact absurd (by simp [shape]) unknown

end EntryDraft

-----------------------------------------------------------------------------------------
-- Series
-----------------------------------------------------------------------------------------

/-- Names that differ can be sorted in one after the other in either order. -/
theorem insertSorted_comm {α : Type} {a b : String} (apart : a ≠ b) (x y : α)
    (list : List (String × α))
    : insertSorted b y (insertSorted a x list) = insertSorted a x (insertSorted b y list) := by
  induction list with
  | nil =>
      simp only [insertSorted]
      grind
  | cons head list ih =>
      simp only [insertSorted]
      grind [insertSorted]

namespace LedgerDraft

/-- A map with its members in another order and each value in another arrangement. -/
inductive SeriesRearranges : Tree → Tree → Prop where
  | object {members changed members' : List (Option String × Tree)}
      (each : List.Forall₂ (SameMember fun _ => EachRearranged EntryDraft.Rearranges)
        members changed)
      (order : members'.Perm changed)
      : SeriesRearranges (.object members .closed) (.object members' .closed)

/-- A field of a ledger in another arrangement. -/
def FieldRearranges : String → Tree → Tree → Prop
  | "entries" => SeriesRearranges
  | _ => Eq

/-- The same ledger in another arrangement. -/
def Rearranges : Tree → Tree → Prop := Rearranged (shape 0).fields FieldRearranges

theorem commutes (depth : Nat) : (shape depth).Commutes := by
  intro a b fieldA fieldB apart start middle result x y first second
  simp only [shape, List.mem_cons, List.not_mem_nil, or_false] at fieldA fieldB
  rcases fieldA with rfl | rfl | rfl <;> rcases fieldB with rfl | rfl | rfl
  all_goals
    first
    | contradiction
    | (apply RecordShape.store_swap start middle first second
       exact fun _ _ => rfl)

variable {depth : Nat} {done next : List (String × List EntryDraft)}

theorem addSeries_eq_ok {given : Option String} {tree : Tree}
    : addSeries depth done (given, tree) = .ok next
      ↔ ∃ tool entries, given = some tool ∧ tool ∉ done.map Prod.fst
        ∧ tree.readList (EntryDraft.shape (depth - 1)).read = .ok entries
        ∧ next = insertSorted tool entries done := by
  constructor
  · intro added
    obtain ⟨tool, named, added⟩ := bind_eq_ok.mp added
    split at added
    next => contradiction
    next fresh =>
      obtain ⟨entries, read, added⟩ := bind_eq_ok.mp added
      refine ⟨tool, entries, readName_eq_ok.mp named, ?_, read, (Except.ok.inj added).symm⟩
      exact fun present => fresh (isSome_lookup_iff.mpr present)
  · rintro ⟨tool, entries, rfl, fresh, read, rfl⟩
    refine bind_eq_ok.mpr ⟨tool, rfl, ?_⟩
    rw [if_neg fun found => fresh (isSome_lookup_iff.mp found)]
    exact bind_eq_ok.mpr ⟨entries, read, rfl⟩

/-- Two series that are added one after the other can be added the other way round. -/
theorem addSeries_swap {m m' : Option String × Tree} {middle : List (String × List EntryDraft)}
    (first : addSeries depth done m = .ok middle) (second : addSeries depth middle m' = .ok next)
    : ∃ other, addSeries depth done m' = .ok other ∧ addSeries depth other m = .ok next := by
  obtain ⟨tool, entries, named, fresh, read, rfl⟩ := addSeries_eq_ok.mp first
  obtain ⟨tool', entries', named', fresh', read', rfl⟩ := addSeries_eq_ok.mp second
  rw [map_fst_insertSorted, Ledger.mem_insertName, not_or] at fresh'
  have fresh : tool ∉ (insertSorted tool' entries' done).map Prod.fst := by
    rw [map_fst_insertSorted, Ledger.mem_insertName, not_or]
    exact ⟨fun same => fresh'.1 same.symm, fresh⟩
  refine ⟨insertSorted tool' entries' done, ?_, ?_⟩
  · exact addSeries_eq_ok.mpr ⟨tool', entries', named', fresh'.2, read', rfl⟩
  · refine addSeries_eq_ok.mpr ⟨tool, entries, named, fresh, read, ?_⟩
    exact insertSorted_comm (fun same => fresh'.1 same.symm) _ _ _

/-- Series in another arrangement are read as the same series. -/
theorem readSeries_rearranged {tree tree' : Tree} (related : SeriesRearranges tree tree')
    (whole : tree'.Whole) (read : readSeries depth tree = .ok done)
    : readSeries depth tree' = .ok done := by
  obtain ⟨each, order⟩ := related
  obtain ⟨series, run, read⟩ := bind_eq_ok.mp read
  refine bind_eq_ok.mpr ⟨series, ?_, read⟩
  refine foldlM_perm (fun _ _ => True) (fun _ => trivial) ?_ order.symm
    (List.pairwise_of_forall fun _ _ => trivial) ?_
  · exact fun _ => addSeries_swap
  refine foldlM_forall₂ each ?_ run
  rintro ⟨given, x⟩ ⟨given', x'⟩ member ⟨rfl, same⟩ state next added
  obtain ⟨tool, entries, rfl, fresh, read, rfl⟩ := addSeries_eq_ok.mp added
  refine addSeries_eq_ok.mpr ⟨tool, entries, rfl, fresh, ?_, rfl⟩
  refine Tree.readList_rearranged ?_ (same tool rfl)
    (whole.members _ (order.mem_iff.mpr member)) read
  exact fun related => RecordShape.read_rearranged (EntryDraft.commutes _)
    (EntryDraft.respects _) related

theorem respects (depth : Nat) : (shape depth).Respects FieldRearranges := by
  intro name _ x x' same whole start next set
  unfold FieldRearranges at same
  split at same
  case h_1 =>
    obtain ⟨series, read, set⟩ := bind_eq_ok.mp set
    exact bind_eq_ok.mpr ⟨series, readSeries_rearranged same whole read, set⟩
  case h_2 => exact same ▸ set

/-- What series are read from is an arrangement of itself. -/
theorem seriesRearranges_self {tree : Tree} (read : readSeries depth tree = .ok done)
    : SeriesRearranges tree tree := by
  unfold readSeries at read
  split at read
  next members closing =>
    obtain ⟨series, run, read⟩ := bind_eq_ok.mp read
    obtain ⟨_, clear, _⟩ := bind_eq_ok.mp read
    obtain rfl := closed_of_requireNoFault clear
    refine .object (List.forall₂_same.mpr fun m member => ⟨rfl, fun _ _ => ?_⟩) (.refl _)
    obtain ⟨_, _, added⟩ := exists_step_of_foldlM run m member
    obtain ⟨_, _, _, _, read, _⟩ := addSeries_eq_ok.mp added
    refine Tree.eachRearranged_self (fun read => ?_) read
    have arranged := RecordShape.rearranged_self (EntryDraft.relates _) read
    exact arranged
  next => exact absurd read (Tree.mismatch_ne_ok _ _ _)

theorem relates (depth : Nat) : (shape depth).Relates FieldRearranges where
  field := by
    intro name _ x start next set
    unfold FieldRearranges
    split
    case h_1 =>
      obtain ⟨series, read, _⟩ := bind_eq_ok.mp set
      exact seriesRearranges_self read
    case h_2 => rfl
  other := by
    intro name unknown x
    unfold FieldRearranges
    split
    case h_1 => exact absurd (by simp [shape]) unknown
    case h_2 => rfl

end LedgerDraft

end PerfLedger
