import PerfLedger.Proofs.Artifact.DraftRules
import PerfLedger.Proofs.Artifact.Drafts

/-! How deep an entry is nested does not matter. Only the value of a record can be nested too
deeply, and then it is no number, so that the record is refused wherever it stands.
-/

namespace PerfLedger

-----------------------------------------------------------------------------------------
-- Other ways of setting a field
-----------------------------------------------------------------------------------------

namespace RecordShape

variable {Draft α : Type} {set set' : Draft → String → Tree → Except ReadError Draft}
  {field : String} {Good : Draft → Prop}

/-- Fields are set in another way, but to the same where `field` is set to what is good. The
other fields have nothing to do with what is good.
-/
structure Stands (set set' : Draft → String → Tree → Except ReadError Draft) (field : String)
    (Good : Draft → Prop) : Prop where
  keeps : ∀ {draft name tree next}, name ≠ field → set draft name tree = .ok next →
    Good next → Good draft
  reads : ∀ {draft name tree next}, set draft name tree = .ok next →
    (name = field → Good next) → set' draft name tree = .ok next

/-- A run over different fields that leads to what is good leads there in the other way too, by
induction on the fields. None comes again, so that each is set to what is seen in the end.
-/
theorem Stands.foldlM_eq (h : Stands set set' field Good) {fields : List (String × Tree)}
    (distinct : (fields.map Prod.fst).Nodup) {start draft : Draft} (good : Good draft)
    (sets : fields.foldlM (fun draft f => set draft f.1 f.2) start = .ok draft)
    : fields.foldlM (fun draft f => set' draft f.1 f.2) start = .ok draft := by
  induction fields generalizing start with
  | nil => exact sets
  | cons f fields ih =>
      obtain ⟨apart, distinct⟩ := List.nodup_cons.mp distinct
      obtain ⟨next, first, rest⟩ := bind_eq_ok.mp sets
      refine bind_eq_ok.mpr ⟨next, h.reads first fun own => ?_, ih distinct rest⟩
      have back : Good draft → Good next := by
        refine foldlM_invariant (fun draft => Good draft → Good next) ?_ id rest
        intro other member before after back set good
        have different : other.1 ≠ field := by
          rintro rfl
          exact apart (own ▸ List.mem_map_of_mem member)
        exact back (h.keeps different set good)
      exact back good

/-- A record that is read from a good draft is read in the other way too. -/
theorem Stands.read_eq (shape : RecordShape Draft α) (h : Stands shape.set set' field Good)
    (distinct : shape.fields.Nodup) {tree : Tree} {value : α}
    (good : ∀ draft, shape.finish draft = .ok value → Good draft)
    (read : shape.read tree = .ok value)
    : { shape with set := set' }.read tree = .ok value := by
  unfold RecordShape.read at read
  split at read
  next members closing =>
    obtain ⟨names, draft, taken, closed, finished⟩ := readMembers_eq_ok.mp read
    obtain ⟨named, apart, fresh, sets⟩ := takes_iff.mpr ⟨names, taken⟩
    have takes : { shape with set := set' }.Takes [] shape.empty members draft :=
      ⟨named, apart, fresh, h.foldlM_eq apart (good draft finished) sets⟩
    obtain ⟨names, taken⟩ := takes_iff.mp takes
    exact readMembers_eq_ok.mpr ⟨names, draft, taken, closed, finished⟩
  next items closing =>
    obtain ⟨draft, folded, closed, fits, finished⟩ := readItems_eq_ok.mp read
    have apart := distinct.sublist (map_fst_zip_sublist shape.fields items)
    have folded := h.foldlM_eq apart (good draft finished) folded
    exact readItems_eq_ok.mpr ⟨draft, folded, closed, fits, finished⟩
  next => exact absurd read (Tree.mismatch_ne_ok _ _ _)

end RecordShape

-----------------------------------------------------------------------------------------
-- Records
-----------------------------------------------------------------------------------------

theorem Tree.eq_of_readJson_number {depth : Nat} {tree : Tree} {number : JsonNumber}
    (read : tree.readJson depth = .ok (.number number))
    : tree = .number number := by
  unfold readJson at read
  split at read
  case h_3 => rw [Json.number.inj (Except.ok.inj read)]
  case h_5 | h_6 =>
    obtain ⟨values, -, read⟩ := bind_eq_ok.mp read
    obtain ⟨_, -, read⟩ := bind_eq_ok.mp read
    exact nomatch Except.ok.inj read
  case h_1 | h_2 | h_4 => exact nomatch Except.ok.inj read
  all_goals contradiction

theorem Tree.read_of_readOptional {α : Type} {read : Tree → Except ReadError α} {tree : Tree}
    {value : α} (h : tree.readOptional read = .ok (some value))
    : read tree = .ok value := by
  unfold readOptional at h
  split at h
  next => exact nomatch Except.ok.inj h
  next =>
    obtain ⟨found, done, same⟩ := map_eq_ok.mp h
    exact Option.some.inj same ▸ done

namespace RecordDraft

/-- A draft has a number for its value. -/
def Measured (draft : RecordDraft) : Prop := ∃ number, draft.value = some (.number number)

theorem stands (depth depth' : Nat)
    : RecordShape.Stands (set depth) (set depth') "value" Measured := by
  constructor
  · intro draft name tree next other read measured
    unfold set at read
    split at read
    case h_2 => contradiction
    case h_6 =>
      obtain rfl := Except.ok.inj read
      exact measured
    all_goals
      obtain ⟨_, -, read⟩ := bind_eq_ok.mp read
      obtain rfl := Except.ok.inj read
      exact measured
  · intro draft name tree next read measured
    unfold set at read ⊢
    split at read
    case h_2 =>
      obtain ⟨value, found, same⟩ := bind_eq_ok.mp read
      obtain rfl := Except.ok.inj same
      obtain ⟨number, rfl⟩ := measured rfl
      obtain rfl := Tree.eq_of_readJson_number (Tree.read_of_readOptional found)
      refine bind_eq_ok.mpr ⟨some (.number number), ?_, rfl⟩
      exact congrArg (some <$> ·) (Tree.readJson_number _ _)
    all_goals exact read

/-- A record with a number for its value is read at every depth. -/
theorem Measured.read_eq {draft : RecordDraft} (measured : draft.Measured) {depth : Nat}
    (depth' : Nat) {tree : Tree} (read : (shape depth).read tree = .ok draft)
    : (shape depth').read tree = .ok draft := by
  have distinct : ["name", "value", "unit", "range", "extra"].Nodup := by decide
  refine (stands (depth - 1) (depth' - 1)).read_eq (shape depth) distinct ?_ read
  exact fun other finished => Except.ok.inj finished ▸ measured

/-- Only a record with a number for its value is accepted. -/
theorem Yields.measured {draft : RecordDraft} {r : Record} (h : draft.Yields (.ok r))
    : draft.Measured := by
  cases h with
  | record _ given => exact ⟨_, given⟩

end RecordDraft

-----------------------------------------------------------------------------------------
-- Entries
-----------------------------------------------------------------------------------------

namespace EntryDraft

/-- All records of an entry that is being read have numbers for their values. -/
def Draft.Measured (draft : Draft) : Prop :=
  ∃ records, draft.records = some records ∧ ∀ r ∈ records, r.Measured

/-- A list of records with numbers is read at every depth. -/
theorem readList_nested {records : List RecordDraft} (measured : ∀ r ∈ records, r.Measured)
    {depth depth' : Nat} {tree : Tree}
    (read : tree.readList (RecordDraft.shape depth).read = .ok records)
    : tree.readList (RecordDraft.shape depth').read = .ok records := by
  unfold Tree.readList at read
  split at read
  next items closing =>
    obtain ⟨values, each, read⟩ := bind_eq_ok.mp read
    obtain ⟨_, closed, read⟩ := bind_eq_ok.mp read
    obtain rfl := Except.ok.inj read
    refine bind_eq_ok.mpr ⟨values, ?_, bind_eq_ok.mpr ⟨_, closed, rfl⟩⟩
    rw [mapM_eq_ok_iff] at each ⊢
    have both := (List.forall₂_and_left _ _).mpr ⟨measured, each.flip⟩
    exact both.flip.imp fun item value h => h.1.read_eq depth' h.2
  next => exact absurd read (Tree.mismatch_ne_ok _ _ _)

/-- Only an entry with numbers for all values is accepted. -/
theorem Yields.measured {draft : EntryDraft} {e : Entry} (h : draft.Yields (.ok e))
    : ∀ r ∈ draft.records, r.Measured := by
  cases h with
  | entry good =>
      intro r member
      obtain ⟨_, _, outcome⟩ := exists_mem_of_forall₂ good r member
      exact outcome.measured

theorem Draft.stands (depth depth' : Nat)
    : RecordShape.Stands (set depth) (set depth') "benches" Measured := by
  constructor
  · intro draft name tree next other read measured
    unfold set at read
    split at read
    case h_4 => contradiction
    case h_5 =>
      obtain rfl := Except.ok.inj read
      exact measured
    all_goals
      obtain ⟨_, -, read⟩ := bind_eq_ok.mp read
      obtain rfl := Except.ok.inj read
      exact measured
  · intro draft name tree next read measured
    unfold set at read ⊢
    split at read
    case h_4 =>
      obtain ⟨records, listed, same⟩ := bind_eq_ok.mp read
      obtain rfl := Except.ok.inj same
      obtain ⟨_, given, numbers⟩ := measured rfl
      obtain rfl := Option.some.inj given
      exact bind_eq_ok.mpr ⟨_, readList_nested numbers listed, rfl⟩
    all_goals exact read

/-- An entry that is accepted is read at every depth. -/
theorem Yields.read_eq {draft : EntryDraft} {e : Entry} (h : draft.Yields (.ok e)) {depth : Nat}
    (depth' : Nat) {tree : Tree} (read : (shape depth).read tree = .ok draft)
    : (shape depth').read tree = .ok draft := by
  have distinct : ["commit", "date", "tool", "benches"].Nodup := by decide
  refine (Draft.stands (depth - 1) (depth' - 1)).read_eq (shape depth) distinct ?_ read
  intro fields finished
  obtain ⟨_, _, finished⟩ := bind_eq_ok.mp finished
  obtain ⟨_, _, finished⟩ := bind_eq_ok.mp finished
  obtain ⟨_, _, finished⟩ := bind_eq_ok.mp finished
  obtain ⟨records, given, finished⟩ := bind_eq_ok.mp finished
  obtain rfl := Except.ok.inj finished
  exact ⟨records, requireField_ok given, h.measured⟩

end EntryDraft

end PerfLedger
