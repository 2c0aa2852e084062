import Mathlib.Data.List.Nodup
import PerfLedger.Artifact.Codec
import PerfLedger.Proofs.Json.Fields

/-! Records and entries only exist in checked form. Whatever way one was made, its names, its
values and its commit id are in order.
-/

namespace PerfLedger

-----------------------------------------------------------------------------------------
-- Records
-----------------------------------------------------------------------------------------

/-- A record is in order: it has a name, and its value is finite and not below zero. -/
structure Record.Valid (r : Record) : Prop where
  named : isBlankText r.name = false
  finite : r.value.isFinite = true
  nonnegative : r.value.lt (.zero false) = false

/-- The records that a program can get hold of: made from typed parts or from a draft, with
annotations added at will.
-/
inductive Record.Made : Record → Prop where
  | make {name unit : String} {value : Double} {r : Record}
      (made : Record.make name value unit = .ok r) : Made r
  | check {draft : RecordDraft} {r : Record} (made : draft.check = .ok r) : Made r
  | annotate {r : Record} (range extra : Option String) (made : Made r)
      : Made { r with range, extra }

/-- Admitted values are finite and not below zero. -/
theorem Double.isFiniteNonnegative_iff (value : Double)
    : value.isFiniteNonnegative = true
      ↔ value.isFinite = true ∧ value.lt (.zero false) = false := by
  cases value with
  | nan => simp [isFiniteNonnegative, isFinite]
  | infinite negative => simp [isFiniteNonnegative, isFinite]
  | finite negative size =>
      cases negative <;>
        simp [isFiniteNonnegative, isFinite, lt, zero, signedUnits, Magnitude.zero]

/-- Both zeros are admitted. -/
theorem Double.isFiniteNonnegative_zero (negative : Bool)
    : (zero negative).isFiniteNonnegative = true := by
  cases negative <;> rfl

theorem Record.checkValue_ok {name : String} {value checked : Double}
    (h : checkValue name value = .ok checked)
    : checked = value ∧ value.isFiniteNonnegative = true := by
  unfold checkValue at h
  split at h
  next admitted => exact ⟨(Except.ok.inj h).symm, admitted⟩
  next => contradiction

/-- A record with a name and a checked value is in order. -/
theorem Record.valid_of_checkValue {r : Record} {value : Double}
    (named : isBlankText r.name = false) (checked : checkValue r.name value = .ok r.value)
    : r.Valid := by
  obtain ⟨same, admitted⟩ := checkValue_ok checked
  obtain ⟨finite, nonnegative⟩ := (Double.isFiniteNonnegative_iff value).mp admitted
  exact ⟨named, same ▸ finite, same ▸ nonnegative⟩

/-- A record made from typed parts is in order. -/
theorem Record.valid_of_make {name unit : String} {value : Double} {r : Record}
    (h : Record.make name value unit = .ok r)
    : r.Valid := by
  unfold make at h
  split at h
  next => contradiction
  next named =>
    obtain ⟨_, checked, made⟩ := bind_eq_ok.mp h
    obtain rfl := Except.ok.inj made
    exact valid_of_checkValue (Bool.eq_false_of_not_eq_true named) checked

theorem RecordDraft.require_ok {α : Type} {field : String} {given : Option α} {value : α}
    (h : check.require field given = .ok value)
    : given = some value := by
  cases given with
  | none => contradiction
  | some other => exact congrArg some (Except.ok.inj h)

/-- A record made from a draft is in order. -/
theorem RecordDraft.valid_of_check {draft : RecordDraft} {r : Record}
    (h : draft.check = .ok r)
    : r.Valid := by
  unfold check at h
  obtain ⟨name, named, h⟩ := bind_eq_ok.mp h
  obtain ⟨given, _, h⟩ := bind_eq_ok.mp h
  obtain ⟨unit, _, h⟩ := bind_eq_ok.mp h
  have notBlank : isBlankText name = false := by
    have kept := (Option.filter_eq_some_iff.mp (require_ok named)).2
    simpa using kept
  dsimp only at h
  split at h
  next number =>
    obtain ⟨value, checked, h⟩ := bind_eq_ok.mp h
    obtain rfl := Except.ok.inj h
    exact Record.valid_of_checkValue notBlank checked
  next => contradiction

/-- Every record is in order, by induction on the way it was made. -/
theorem Record.Made.valid {r : Record} (h : r.Made) : r.Valid := by
  induction h with
  | make made => exact Record.valid_of_make made
  | check made => exact RecordDraft.valid_of_check made
  | annotate range extra _ ih => exact ⟨ih.named, ih.finite, ih.nonnegative⟩

-----------------------------------------------------------------------------------------
-- Entries
-----------------------------------------------------------------------------------------

/-- A full object name: 40 or 64 ASCII hexadecimal digits. -/
def IsObjectName (id : String) : Prop :=
  (id.toList.length = 40 ∨ id.toList.length = 64)
  ∧ ∀ c ∈ id.toList, ('0' ≤ c ∧ c ≤ '9') ∨ ('a' ≤ c ∧ c ≤ 'f') ∨ ('A' ≤ c ∧ c ≤ 'F')

/-- An entry is in order: its tool has a name, its commit a full object name, and there are
records, each in order and each with a name of its own.
-/
structure Entry.Valid (e : Entry) : Prop where
  tool : isBlankText e.tool = false
  commit : IsObjectName e.commit.id
  date : IsInt64 e.date
  nonempty : e.records ≠ []
  distinct : (e.records.map Record.name).Nodup
  records : ∀ r ∈ e.records, r.Valid

/-- A digit that is repeated often enough is a full object name. -/
theorem isObjectName_replicate {digit : Char} (known : '0' ≤ digit ∧ digit ≤ '9')
    : IsObjectName (String.ofList (List.replicate 40 digit)) := by
  refine ⟨.inl (by simp), fun c member => .inl ?_⟩
  obtain rfl := List.eq_of_mem_replicate (by simpa only [String.toList_ofList] using member)
  exact known

/-- The entries that a program can get hold of: made from records, or read from a document. -/
inductive Entry.Made : Entry → Prop where
  | create {commit : Commit} {date : Int} {tool : String} {records : List Record} {e : Entry}
      (range : IsInt64 date) (each : ∀ r ∈ records, r.Made)
      (made : Entry.create commit date tool records = .ok e) : Made e
  | decode {text : String} {e : Entry} (read : Entry.decode text = .ok e) : Made e

/-- The test for object names accepts nothing else. -/
theorem isCommitId_iff (id : String) : isCommitId id = true ↔ IsObjectName id := by
  have digit (c : Char)
      : isHexDigit c = true
        ↔ ('0' ≤ c ∧ c ≤ '9') ∨ ('a' ≤ c ∧ c ≤ 'f') ∨ ('A' ≤ c ∧ c ≤ 'F') := by
    unfold isHexDigit hexValue?
    split
    · simp_all
    · split
      · simp_all
      · split <;> simp_all
  simp only [isCommitId, IsObjectName, Bool.and_eq_true, Bool.or_eq_true, beq_iff_eq,
    List.all_eq_true, digit]

/-- No name is found twice exactly when all are different, by induction on their number. -/
theorem firstRepeated?_eq_none_iff (seen names : List String)
    : firstRepeated? seen names = none ↔ names.Nodup ∧ ∀ name ∈ names, name ∉ seen := by
  induction names generalizing seen with
  | nil => simp [firstRepeated?]
  | cons name names ih =>
      by_cases present : name ∈ seen
      · simp [firstRepeated?, present]
      · simp only [firstRepeated?, present, ↓reduceIte, ih, List.nodup_cons, List.mem_cons]
        grind

/-- A created entry has the given parts, and they pass every check. -/
theorem Entry.create_ok {commit : Commit} {date : Int} {tool : String} {records : List Record}
    {e : Entry} (h : Entry.create commit date tool records = .ok e)
    : e = ⟨commit, date, tool, records⟩ ∧ isBlankText tool = false ∧ IsObjectName commit.id
      ∧ records ≠ [] ∧ (records.map Record.name).Nodup := by
  unfold create at h
  split at h
  next => contradiction
  next named =>
    split at h
    next => contradiction
    next commitId =>
      split at h
      next => contradiction
      next nonempty =>
        split at h
        next => contradiction
        next distinct =>
          refine ⟨(Except.ok.inj h).symm, ?_, ?_, ?_, ?_⟩
          · simpa using named
          · exact (isCommitId_iff _).mp (by simpa using commitId)
          · simpa using nonempty
          · exact ((firstRepeated?_eq_none_iff _ _).mp distinct).1

theorem Entry.valid_of_create {commit : Commit} {date : Int} {tool : String}
    {records : List Record} {e : Entry} (range : IsInt64 date) (each : ∀ r ∈ records, r.Valid)
    (h : Entry.create commit date tool records = .ok e)
    : e.Valid := by
  obtain ⟨rfl, named, commitId, nonempty, distinct⟩ := create_ok h
  exact ⟨named, commitId, range, nonempty, distinct, each⟩

-----------------------------------------------------------------------------------------
-- Entries that are read
-----------------------------------------------------------------------------------------

/-- The records of checked drafts are in order, by induction on their number. -/
theorem EntryDraft.valid_of_checkRecords {index : Nat} {drafts : List RecordDraft}
    {records : List Record} (h : checkRecords index drafts = .ok records)
    : ∀ r ∈ records, r.Valid := by
  induction drafts generalizing index records with
  | nil =>
      obtain rfl := Except.ok.inj h
      exact List.forall_mem_nil _
  | cons draft drafts ih =>
      unfold checkRecords at h
      split at h
      next record checked =>
        obtain ⟨others, rest, rfl⟩ := map_eq_ok.mp h
        exact List.forall_mem_cons.mpr ⟨RecordDraft.valid_of_check checked, ih rest⟩
      next => contradiction

/-- The entry of a draft whose date is one of 64 bits is in order. -/
theorem EntryDraft.valid_of_check {draft : EntryDraft} {e : Entry} (range : IsInt64 draft.date)
    (h : draft.check = .ok e)
    : e.Valid := by
  obtain ⟨records, checked, created⟩ := bind_eq_ok.mp h
  exact Entry.valid_of_create range (valid_of_checkRecords checked) created

theorem requireField_ok {α : Type} {name : String} {given : Option α} {value : α}
    (h : requireField name given = .ok value)
    : given = some value := by
  cases given with
  | none => contradiction
  | some other => exact congrArg some (Except.ok.inj h)

/-- The date of an entry that is read is one of 64 bits. -/
theorem EntryDraft.date_of_read {depth : Nat} {tree : Tree} {draft : EntryDraft}
    (h : (shape depth).read tree = .ok draft)
    : IsInt64 draft.date := by
  obtain ⟨fields, kept, finished⟩ :=
    RecordShape.read_kept (fun fields => ∀ date ∈ fields.date, IsInt64 date) (by simp [shape])
      (by
        intro fields name tree next kept set
        simp only [shape, Draft.set] at set
        split at set
        case h_2 =>
          obtain ⟨date, read, set⟩ := bind_eq_ok.mp set
          obtain rfl := Except.ok.inj set
          exact fun other same => Option.some.inj same ▸ Tree.readInt64_ok read
        case h_5 => exact Except.ok.inj set ▸ kept
        all_goals
          obtain ⟨_, _, set⟩ := bind_eq_ok.mp set
          exact Except.ok.inj set ▸ kept)
      h
  obtain ⟨_, _, finished⟩ := bind_eq_ok.mp finished
  obtain ⟨date, given, finished⟩ := bind_eq_ok.mp finished
  obtain ⟨_, _, finished⟩ := bind_eq_ok.mp finished
  obtain ⟨_, _, finished⟩ := bind_eq_ok.mp finished
  obtain rfl := Except.ok.inj finished
  exact kept date (requireField_ok given)

theorem orUnreadable_ok {α : Type} {read : Except ReadError α} {value : α}
    (h : orUnreadable read = .ok value)
    : read = .ok value := by
  cases read with
  | error cause => contradiction
  | ok other => exact congrArg Except.ok (Except.ok.inj h)

/-- What is read from a whole text is read from its tree, and nothing is left over. -/
theorem readDocument_ok {α : Type} {read : Tree → Except ReadError α} {text : List Char}
    {value : α} (h : readDocument read text = .ok value)
    : read (parseText text).tree = .ok value ∧ (parseText text).trailing = false := by
  obtain ⟨other, done, h⟩ := bind_eq_ok.mp h
  split at h
  next =>
    obtain ⟨_, failed, _⟩ := bind_eq_ok.mp h
    contradiction
  next finished =>
    obtain rfl := Except.ok.inj h
    exact ⟨done, Bool.eq_false_iff.mpr finished⟩

/-- Every entry is in order, whichever way it was made. -/
theorem Entry.Made.valid {e : Entry} (h : e.Made) : e.Valid := by
  cases h with
  | create range each made =>
      exact valid_of_create range (fun r member => (each r member).valid) made
  | decode read =>
      obtain ⟨draft, readable, checked⟩ := bind_eq_ok.mp read
      have range := EntryDraft.date_of_read (readDocument_ok (orUnreadable_ok readable)).1
      split at checked
      next made =>
        obtain rfl := Except.ok.inj checked
        exact EntryDraft.valid_of_check range made
      next => contradiction

-----------------------------------------------------------------------------------------
-- Anything in order
-----------------------------------------------------------------------------------------

/-- The parts of a record in order are accepted. -/
theorem Record.Valid.make {r : Record} (h : r.Valid)
    : Record.make r.name r.value r.unit = .ok { r with range := none, extra := none } := by
  have admitted := (Double.isFiniteNonnegative_iff r.value).mpr ⟨h.finite, h.nonnegative⟩
  simp [Record.make, checkValue, h.named, admitted]

/-- The records that a program can get hold of are those in order. -/
theorem Record.made_iff_valid {r : Record} : r.Made ↔ r.Valid := by
  refine ⟨Made.valid, fun h => ?_⟩
  have annotated := Made.annotate r.range r.extra (.make h.make)
  exact annotated

/-- The parts of an entry in order are accepted. -/
theorem Entry.Valid.create {e : Entry} (h : e.Valid)
    : Entry.create e.commit e.date e.tool e.records = .ok e := by
  have distinct := (firstRepeated?_eq_none_iff [] (e.records.map Record.name)).mpr
    ⟨h.distinct, fun _ _ => List.not_mem_nil⟩
  simp [Entry.create, h.tool, (isCommitId_iff e.commit.id).mpr h.commit, h.nonempty, distinct]

/-- The entries that a program can get hold of are those in order. -/
theorem Entry.made_iff_valid {e : Entry} : e.Made ↔ e.Valid := by
  refine ⟨Made.valid, fun h => .create h.date (fun r member => ?_) h.create⟩
  exact Record.made_iff_valid.mpr (h.records r member)

end PerfLedger
