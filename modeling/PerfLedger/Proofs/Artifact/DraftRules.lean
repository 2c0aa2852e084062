import Mathlib.Data.List.Forall2
import Mathlib.Data.List.Induction
import PerfLedger.Proofs.Ledger.MadeEntries

/-! What the check of a draft comes to, as rules, one for each outcome. A record is refused
for its first fault, and an entry for its first bad record before anything else.
-/

namespace PerfLedger

-----------------------------------------------------------------------------------------
-- First faults in lists
-----------------------------------------------------------------------------------------

/-- Of items that come to a value or an error each, all come to values, or there is a first
that does not; by induction on their number.
-/
theorem forall₂_or_first {ε α β : Type} {R : α → Except ε β → Prop}
    (total : ∀ x, ∃ result, R x result) (items : List α)
    : (∃ values, List.Forall₂ (fun x y => R x (.ok y)) items values)
      ∨ ∃ before bad after values cause, items = before ++ bad :: after
          ∧ List.Forall₂ (fun x y => R x (.ok y)) before values ∧ R bad (.error cause) := by
  induction items with
  | nil => exact .inl ⟨[], .nil⟩
  | cons item items ih =>
      obtain ⟨cause | value, outcome⟩ := total item
      · exact .inr ⟨[], item, items, [], cause, rfl, .nil, outcome⟩
      · rcases ih with ⟨values, good⟩ | ⟨before, bad, after, values, cause, rfl, good, refused⟩
        · exact .inl ⟨value :: values, .cons outcome good⟩
        · exact .inr ⟨item :: before, bad, after, value :: values, cause, rfl,
            .cons outcome good, refused⟩

/-- If every item comes to a value then they all do, by induction on their number. -/
theorem exists_forall₂ {α β : Type} {R : α → β → Prop} {items : List α}
    (each : ∀ x ∈ items, ∃ y, R x y)
    : ∃ values, List.Forall₂ R items values := by
  induction items with
  | nil => exact ⟨[], .nil⟩
  | cons item items ih =>
      obtain ⟨⟨value, first⟩, rest⟩ := List.forall_mem_cons.mp each
      obtain ⟨values, others⟩ := ih rest
      exact ⟨value :: values, .cons first others⟩

/-- Names are all different, or there is a first that came before; by induction from the end
of the list.
-/
theorem nodup_or_first_repeated (names : List String)
    : names.Nodup ∨ ∃ before name after,
        names = before ++ name :: after ∧ before.Nodup ∧ name ∈ before := by
  induction names using List.reverseRecOn with
  | nil => exact .inl List.nodup_nil
  | append_singleton names last ih =>
      rcases ih with distinct | ⟨before, name, after, rfl, distinct, present⟩
      · by_cases present : last ∈ names
        · exact .inr ⟨names, last, [], rfl, distinct, present⟩
        · refine .inl (distinct.append (List.nodup_singleton last) ?_)
          exact List.disjoint_singleton.mpr present
      · exact .inr ⟨before, name, after ++ [last], by simp, distinct, present⟩

/-- The first name that came before is found, by induction on the names ahead of it. -/
theorem firstRepeated?_eq_some {seen before : List String} {name : String} (after : List String)
    (distinct : before.Nodup) (fresh : ∀ other ∈ before, other ∉ seen)
    (present : name ∈ seen ∨ name ∈ before)
    : firstRepeated? seen (before ++ name :: after) = some name := by
  induction before generalizing seen with
  | nil =>
      rcases present with present | absurd
      · exact if_pos present
      · contradiction
  | cons first before ih =>
      obtain ⟨apart, distinct⟩ := List.nodup_cons.mp distinct
      obtain ⟨freshFirst, fresh⟩ := List.forall_mem_cons.mp fresh
      refine (if_neg freshFirst).trans (ih distinct ?_ ?_)
      · intro other member
        rw [List.mem_cons, not_or]
        exact ⟨fun same => apart (same ▸ member), fresh other member⟩
      · rcases present with present | present
        · exact .inl (List.mem_cons_of_mem _ present)
        · rcases List.mem_cons.mp present with rfl | present
          · exact .inl List.mem_cons_self
          · exact .inr present

-----------------------------------------------------------------------------------------
-- Records
-----------------------------------------------------------------------------------------

/-- A number that a record may have: finite and not below zero. -/
def IsMeasure (value : Double) : Prop := value.isFinite = true ∧ value.lt (.zero false) = false

theorem Record.checkValue_eq_ok {value : Double} (measure : IsMeasure value) (name : String)
    : checkValue name value = .ok value :=
  if_pos ((Double.isFiniteNonnegative_iff value).mpr measure)

theorem Record.checkValue_eq_error {value : Double} (bad : ¬ IsMeasure value) (name : String)
    : checkValue name value = .error (.invalidValue name value.plain) :=
  if_neg fun admitted => bad ((Double.isFiniteNonnegative_iff value).mp admitted)

namespace RecordDraft

/-- The draft has a name that is not blank. -/
def Named (d : RecordDraft) (name : String) : Prop :=
  d.name = some name ∧ isBlankText name = false

/-- What a draft of a record comes to. The name goes first, then the presence of a value and of
a unit, then the kind of the value, and last its range.
-/
inductive Yields (d : RecordDraft) : Except RecordError Record → Prop where
  | noName (missing : ∀ name, ¬ d.Named name) : Yields d (.error (.missingField "name"))
  | noValue {name : String} (named : d.Named name) (missing : d.value = none)
      : Yields d (.error (.missingField "value"))
  | noUnit {name : String} {value : Json} (named : d.Named name) (given : d.value = some value)
      (missing : d.unit = none) : Yields d (.error (.missingField "unit"))
  | noNumber {name unit : String} {value : Json} (named : d.Named name)
      (given : d.value = some value) (measured : d.unit = some unit)
      (other : ∀ number, value ≠ .number number)
      : Yields d (.error (.invalidValue name value.compact))
  | badNumber {name unit : String} {number : JsonNumber} (named : d.Named name)
      (given : d.value = some (.number number)) (measured : d.unit = some unit)
      (bad : ¬ IsMeasure number.toDouble)
      : Yields d (.error (.invalidValue name number.toDouble.plain))
  | record {name unit : String} {number : JsonNumber} (named : d.Named name)
      (given : d.value = some (.number number)) (measured : d.unit = some unit)
      (measure : IsMeasure number.toDouble)
      : Yields d (.ok ⟨name, number.toDouble, unit, d.range, d.extra⟩)

variable {d : RecordDraft}

theorem Named.require {name : String} (h : d.Named name)
    : check.require "name" (d.name.filter fun name => !isBlankText name) = .ok name := by
  simp [h.1, Option.filter, h.2, check.require]

/-- Every draft comes to something, by cases on its fields in the order of the rules. -/
theorem exists_yields (d : RecordDraft) : ∃ result, d.Yields result := by
  by_cases visible : ∃ name, d.Named name
  · obtain ⟨name, named⟩ := visible
    cases given : d.value with
    | none => exact ⟨_, .noValue named given⟩
    | some value =>
        cases measured : d.unit with
        | none => exact ⟨_, .noUnit named given measured⟩
        | some unit =>
            by_cases kind : ∃ number, value = .number number
            · obtain ⟨number, rfl⟩ := kind
              by_cases measure : IsMeasure number.toDouble
              · exact ⟨_, .record named given measured measure⟩
              · exact ⟨_, .badNumber named given measured measure⟩
            · exact ⟨_, .noNumber named given measured (not_exists.mp kind)⟩
  · exact ⟨_, .noName (not_exists.mp visible)⟩

/-- What a draft comes to by the rules is what its check gives. -/
theorem Yields.check_eq {result : Except RecordError Record} (h : d.Yields result)
    : d.check = result := by
  unfold check
  cases h with
  | noName missing =>
      have nothing : (d.name.filter fun name => !isBlankText name) = none := by
        rw [Option.filter_eq_none_iff]
        intro name given visible
        exact missing name ⟨given, by simpa using visible⟩
      rw [nothing]
      rfl
  | noValue named missing =>
      rw [named.require, missing]
      rfl
  | noUnit named given missing =>
      rw [named.require, given, missing]
      rfl
  | noNumber named given measured other =>
      rw [named.require, given, measured]
      rename_i value
      cases value with
      | number number => exact absurd rfl (other number)
      | _ => rfl
  | badNumber named given measured bad =>
      rw [named.require, given, measured]
      simp only [check.require, bind, Except.bind, Record.checkValue_eq_error bad]
  | record named given measured measure =>
      rw [named.require, given, measured]
      simp only [check.require, bind, Except.bind, Record.checkValue_eq_ok measure]
      rfl

theorem check_eq_iff {result : Except RecordError Record}
    : d.check = result ↔ d.Yields result := by
  refine ⟨?_, Yields.check_eq⟩
  rintro rfl
  obtain ⟨result, outcome⟩ := d.exists_yields
  rw [outcome.check_eq]
  exact outcome

/-- A draft of a record without a fault: it has a name that is not blank, a unit, and a finite
number not below zero.
-/
structure Sound (d : RecordDraft) : Prop where
  name : ∃ name, d.name = some name ∧ isBlankText name = false
  value : ∃ number : JsonNumber, d.value = some (.number number)
    ∧ number.toDouble.isFinite = true ∧ number.toDouble.lt (.zero false) = false
  unit : ∃ unit, d.unit = some unit

theorem sound_iff : d.Sound ↔ ∃ r, d.Yields (.ok r) := by
  constructor
  · rintro ⟨⟨_, named⟩, ⟨_, given, measure⟩, ⟨_, measured⟩⟩
    exact ⟨_, .record named given measured measure⟩
  · rintro ⟨_, outcome⟩
    cases outcome with
    | record named given measured measure =>
        exact ⟨⟨_, named⟩, ⟨_, given, measure⟩, ⟨_, measured⟩⟩

end RecordDraft

-----------------------------------------------------------------------------------------
-- Entries
-----------------------------------------------------------------------------------------

namespace EntryDraft

/-- The records of some drafts, none of which has a fault. -/
def Records (drafts : List RecordDraft) (records : List Record) : Prop :=
  List.Forall₂ (fun d r => d.Yields (.ok r)) drafts records

/-- What a draft of an entry comes to. The first bad record goes first, then the tool, then the
commit, and then the list of records: that there are any, and that their names differ.
-/
inductive Yields (d : EntryDraft) : Except EntryError Entry → Prop where
  | badRecord {before after : List RecordDraft} {bad : RecordDraft} {records : List Record}
      {cause : RecordError} (drafts : d.records = before ++ bad :: after)
      (good : Records before records) (refused : bad.Yields (.error cause))
      : Yields d (.error (.badRecord before.length cause))
  | blankTool {records : List Record} (good : Records d.records records)
      (blank : isBlankText d.tool = true) : Yields d (.error .blankTool)
  | malformedCommitId {records : List Record} (good : Records d.records records)
      (named : isBlankText d.tool = false) (malformed : ¬ IsObjectName d.commit.id)
      : Yields d (.error (.malformedCommitId d.commit.id))
  | noRecords (nothing : d.records = []) (named : isBlankText d.tool = false)
      (commit : IsObjectName d.commit.id) : Yields d (.error .noRecords)
  | duplicateRecord {records : List Record} {before after : List String} {name : String}
      (good : Records d.records records) (named : isBlankText d.tool = false)
      (commit : IsObjectName d.commit.id)
      (names : records.map Record.name = before ++ name :: after) (distinct : before.Nodup)
      (repeated : name ∈ before) : Yields d (.error (.duplicateRecord name))
  | entry {records : List Record} (good : Records d.records records)
      (named : isBlankText d.tool = false) (commit : IsObjectName d.commit.id)
      (nonempty : d.records ≠ []) (distinct : (records.map Record.name).Nodup)
      : Yields d (.ok ⟨d.commit, d.date, d.tool, records⟩)

/-- Drafts of records without a fault are checked one after the other, by induction. -/
theorem Records.checkRecords_eq {drafts : List RecordDraft} {records : List Record}
    (h : Records drafts records) (index : Nat)
    : checkRecords index drafts = .ok records := by
  induction h generalizing index with
  | nil => rfl
  | cons first _ ih => simp only [checkRecords, first.check_eq, ih]; rfl

/-- The check of records stops at the first bad one, by induction on those before it. -/
theorem Records.checkRecords_eq_error {before after : List RecordDraft} {bad : RecordDraft}
    {records : List Record} {cause : RecordError} (h : Records before records)
    (refused : bad.Yields (.error cause)) (index : Nat)
    : checkRecords index (before ++ bad :: after)
      = .error (.badRecord (index + before.length) cause) := by
  induction h generalizing index with
  | nil => simp [checkRecords, refused.check_eq]
  | cons first _ ih =>
      simp only [List.cons_append, checkRecords, first.check_eq, ih, List.length_cons]
      rw [Nat.add_right_comm, Nat.add_assoc]
      rfl

/-- Records have the names of their drafts. -/
theorem Records.map_name {drafts : List RecordDraft} {records : List Record}
    (h : Records drafts records)
    : drafts.map RecordDraft.name = (records.map Record.name).map some := by
  induction h with
  | nil => rfl
  | cons first _ ih =>
      cases first with
      | record named => exact List.cons_eq_cons.mpr ⟨named.1, ih⟩

/-- Only drafts without a fault come to records. -/
theorem Records.sound {drafts : List RecordDraft} {records : List Record}
    (h : Records drafts records)
    : ∀ r ∈ drafts, r.Sound := by
  induction h with
  | nil => exact List.forall_mem_nil _
  | cons first _ ih =>
      exact List.forall_mem_cons.mpr ⟨RecordDraft.sound_iff.mpr ⟨_, first⟩, ih⟩

variable {d : EntryDraft}

theorem Records.check_eq {records : List Record} (h : Records d.records records)
    : d.check = Entry.create d.commit d.date d.tool records :=
  bind_eq_of_ok (h.checkRecords_eq 0)

/-- Every draft comes to something, by cases in the order of the rules. -/
theorem exists_yields (d : EntryDraft) : ∃ result, d.Yields result := by
  rcases forall₂_or_first RecordDraft.exists_yields d.records with
    ⟨records, good⟩ | ⟨before, bad, after, records, cause, drafts, good, refused⟩
  · cases named : isBlankText d.tool with
    | true => exact ⟨_, .blankTool good named⟩
    | false =>
        by_cases commit : IsObjectName d.commit.id
        · by_cases nothing : d.records = []
          · exact ⟨_, .noRecords nothing named commit⟩
          · rcases nodup_or_first_repeated (records.map Record.name) with
              distinct | ⟨before, name, after, names, distinct, repeated⟩
            · exact ⟨_, .entry good named commit nothing distinct⟩
            · exact ⟨_, .duplicateRecord good named commit names distinct repeated⟩
        · exact ⟨_, .malformedCommitId good named commit⟩
  · exact ⟨_, .badRecord drafts good refused⟩

theorem create_eq_error_of_repeated {commit : Commit} {tool : String} {records : List Record}
    {before after : List String} {name : String} (named : isBlankText tool = false)
    (valid : IsObjectName commit.id) (date : Int)
    (names : records.map Record.name = before ++ name :: after) (distinct : before.Nodup)
    (repeated : name ∈ before)
    : Entry.create commit date tool records = .error (.duplicateRecord name) := by
  have found : firstRepeated? [] (records.map Record.name) = some name := by
    rw [names]
    exact firstRepeated?_eq_some after distinct (fun _ _ => List.not_mem_nil) (.inr repeated)
  have nonempty : records ≠ [] := by
    rintro rfl
    simp at names
  simp [Entry.create, named, (isCommitId_iff _).mpr valid, nonempty, found]

/-- What a draft comes to by the rules is what its check gives. -/
theorem Yields.check_eq {result : Except EntryError Entry} (h : d.Yields result)
    : d.check = result := by
  cases h with
  | badRecord drafts good refused =>
      rw [check, drafts, good.checkRecords_eq_error refused, Nat.zero_add]
      rfl
  | blankTool good blank => exact good.check_eq.trans (if_pos blank)
  | malformedCommitId good named malformed =>
      have refused : isCommitId d.commit.id = false :=
        Bool.eq_false_iff.mpr fun accepted => malformed ((isCommitId_iff _).mp accepted)
      simp [good.check_eq, Entry.create, named, refused]
  | noRecords nothing named commit =>
      have good : Records d.records [] := nothing ▸ List.Forall₂.nil
      simp [good.check_eq, Entry.create, named, (isCommitId_iff _).mpr commit]
  | duplicateRecord good named commit names distinct repeated =>
      rw [good.check_eq]
      exact create_eq_error_of_repeated named commit d.date names distinct repeated
  | @entry records good named commit nonempty distinct =>
      have nonempty : records ≠ [] := by
        rintro rfl
        exact nonempty (List.forall₂_nil_right_iff.mp good)
      have found := (firstRepeated?_eq_none_iff [] (records.map Record.name)).mpr
        ⟨distinct, fun _ _ => List.not_mem_nil⟩
      simp [good.check_eq, Entry.create, named, (isCommitId_iff _).mpr commit, nonempty, found]

theorem check_eq_iff {result : Except EntryError Entry}
    : d.check = result ↔ d.Yields result := by
  refine ⟨?_, Yields.check_eq⟩
  rintro rfl
  obtain ⟨result, outcome⟩ := d.exists_yields
  rw [outcome.check_eq]
  exact outcome

/-- A draft of an entry without a fault: its tool has a name, its commit a full object name,
and there are records, none of which has a fault and no two of which have the same name.
-/
structure Sound (d : EntryDraft) : Prop where
  tool : isBlankText d.tool = false
  commit : IsObjectName d.commit.id
  nonempty : d.records ≠ []
  distinct : (d.records.map RecordDraft.name).Nodup
  records : ∀ r ∈ d.records, r.Sound

theorem sound_iff : d.Sound ↔ ∃ e, d.Yields (.ok e) := by
  constructor
  · rintro ⟨named, commit, nonempty, distinct, sound⟩
    obtain ⟨records, good⟩ :=
      exists_forall₂ fun r member => RecordDraft.sound_iff.mp (sound r member)
    rw [Records.map_name good] at distinct
    exact ⟨_, .entry good named commit nonempty distinct.of_map⟩
  · rintro ⟨_, outcome⟩
    cases outcome with
    | entry good named commit nonempty distinct =>
        refine ⟨named, commit, nonempty, ?_, good.sound⟩
        rw [good.map_name]
        exact distinct.map (Option.some_injective String)

/-- An entry has the commit, the date and the tool of its draft. -/
theorem Yields.fields {e : Entry} (h : d.Yields (.ok e))
    : e.commit = d.commit ∧ e.date = d.date ∧ e.tool = d.tool := by
  cases h with
  | entry => exact ⟨rfl, rfl, rfl⟩

end EntryDraft

end PerfLedger
