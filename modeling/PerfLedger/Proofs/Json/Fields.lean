import Mathlib.Data.List.Nodup
import PerfLedger.Proofs.Json.RoundTrip
import PerfLedger.Proofs.Results

/-! Records with named fields are read field by field. What every field keeps is kept by the
draft, and the object written for a record is read as its members in their order.
-/

namespace PerfLedger

/-- Nothing is read from a tree of the wrong kind. -/
theorem Tree.mismatch_ne_ok {α : Type} (expected : String) (tree : Tree) (value : α)
    : tree.mismatch expected ≠ .ok value := by
  intro h
  unfold mismatch at h
  split at h <;> contradiction

theorem readName_eq_ok {given : Option String} {name : String}
    : readName given = .ok name ↔ given = some name := by
  cases given with
  | none => exact ⟨(nomatch ·), (nomatch ·)⟩
  | some other => exact ⟨fun h => congrArg some (Except.ok.inj h), fun h => congrArg readName h⟩

theorem requireNoFault_eq_ok {fault : Option Fault}
    : requireNoFault fault = .ok () ↔ fault = none := by
  cases fault with
  | none => exact ⟨fun _ => rfl, fun _ => rfl⟩
  | some fault => exact ⟨(nomatch ·), (nomatch ·)⟩

theorem map_fst_zip_sublist {α β : Type} (names : List α) (items : List β)
    : ((names.zip items).map Prod.fst).Sublist names := by
  induction names generalizing items with
  | nil => exact .slnil
  | cons name names ih =>
      cases items with
      | nil => exact List.nil_sublist _
      | cons item items => exact (ih items).cons_cons name

namespace RecordShape

variable {Draft α : Type} {shape : RecordShape Draft α}

/-- Reading a member leaves the draft alone or sets a field of it. -/
theorem takeMember_kept (Kept : Draft → Prop)
    (set : ∀ draft name tree next, Kept draft → shape.set draft name tree = .ok next → Kept next)
    {state next : List String × Draft} {member : Option String × Tree} (kept : Kept state.2)
    (h : shape.takeMember state member = .ok next)
    : Kept next.2 := by
  unfold takeMember at h
  obtain ⟨name, _, h⟩ := bind_eq_ok.mp h
  split at h
  · split at h
    · contradiction
    · obtain ⟨draft, read, h⟩ := bind_eq_ok.mp h
      obtain rfl := Except.ok.inj h
      exact set _ _ _ _ kept read
  · obtain ⟨_, _, h⟩ := bind_eq_ok.mp h
    obtain rfl := Except.ok.inj h
    exact kept

/-- An object is a record when its members make one and it ends as it should. -/
theorem readMembers_eq_ok {members : List (Option String × Tree)} {closing : Closing} {value : α}
    : shape.readMembers members closing = .ok value
      ↔ ∃ names draft, members.foldlM shape.takeMember ([], shape.empty) = .ok (names, draft)
        ∧ requireNoFault closing.fault? = .ok () ∧ shape.finish draft = .ok value := by
  constructor
  · intro h
    obtain ⟨⟨names, draft⟩, taken, h⟩ := bind_eq_ok.mp h
    obtain ⟨_, clear, h⟩ := bind_eq_ok.mp h
    refine ⟨names, draft, taken, clear, ?_⟩
    split at h
    next finished => exact finished.trans (congrArg _ (Except.ok.inj h))
    next => contradiction
  · rintro ⟨names, draft, taken, clear, finished⟩
    refine bind_eq_ok.mpr ⟨_, taken, bind_eq_ok.mpr ⟨_, clear, ?_⟩⟩
    rw [finished]
    rfl

/-- An array is a record when its items make one, are not too many, and it ends as it should. -/
theorem readItems_eq_ok {items : List Tree} {closing : Closing} {value : α}
    : shape.readItems items closing = .ok value
      ↔ ∃ draft,
        (shape.fields.zip items).foldlM (fun draft f => shape.set draft f.1 f.2) shape.empty
          = .ok draft
        ∧ requireNoFault closing.fault? = .ok () ∧ items.length ≤ shape.fields.length
        ∧ shape.finish draft = .ok value := by
  constructor
  · intro h
    obtain ⟨draft, folded, h⟩ := bind_eq_ok.mp h
    refine ⟨draft, folded, ?_⟩
    cases finished : shape.finish draft with
    | error name =>
        simp only [finished] at h
        split at h
        · obtain ⟨_, _, h⟩ := bind_eq_ok.mp h
          contradiction
        · contradiction
    | ok result =>
        simp only [finished] at h
        split at h
        next short =>
          obtain ⟨_, clear, h⟩ := bind_eq_ok.mp h
          rw [if_neg (Nat.lt_asymm short)] at h
          obtain ⟨_, _, h⟩ := bind_eq_ok.mp h
          exact ⟨clear, Nat.le_of_lt short, congrArg _ (Except.ok.inj h)⟩
        next =>
          split at h
          next =>
            obtain ⟨_, failed, _⟩ := bind_eq_ok.mp h
            contradiction
          next fits =>
            obtain ⟨_, clear, h⟩ := bind_eq_ok.mp h
            exact ⟨clear, Nat.not_lt.mp fits, congrArg _ (Except.ok.inj h)⟩
  · rintro ⟨draft, folded, clear, fits, finished⟩
    refine bind_eq_ok.mpr ⟨_, folded, ?_⟩
    have fits := Nat.not_lt.mpr fits
    simp only [finished, if_neg fits]
    split
    · exact bind_eq_ok.mpr ⟨_, clear, bind_eq_ok.mpr ⟨_, clear, rfl⟩⟩
    · exact bind_eq_ok.mpr ⟨_, clear, rfl⟩

/-- Whatever a record is read from, its draft has what every field keeps. -/
theorem read_kept (Kept : Draft → Prop) (empty : Kept shape.empty)
    (set : ∀ draft name tree next, Kept draft → shape.set draft name tree = .ok next → Kept next)
    {tree : Tree} {value : α} (h : shape.read tree = .ok value)
    : ∃ draft, Kept draft ∧ shape.finish draft = .ok value := by
  unfold read at h
  split at h
  next members closing =>
    obtain ⟨names, draft, taken, _, finished⟩ := readMembers_eq_ok.mp h
    refine ⟨draft, ?_, finished⟩
    exact foldlM_invariant (fun state => Kept state.2)
      (fun member _ state next kept taken => takeMember_kept Kept set kept taken) empty taken
  next items closing =>
    obtain ⟨draft, folded, _, _, finished⟩ := readItems_eq_ok.mp h
    refine ⟨draft, ?_, finished⟩
    exact foldlM_invariant Kept (fun field _ draft next kept read => set draft _ _ next kept read)
      empty folded
  next => exact absurd h (Tree.mismatch_ne_ok _ _ _)

/-- A member is taken when it has a name and is either a field that has not come before or can
be skipped.
-/
theorem takeMember_eq_ok {seen seen' : List String} {start next : Draft} {given : Option String}
    {tree : Tree}
    : shape.takeMember (seen, start) (given, tree) = .ok (seen', next)
      ↔ ∃ name, given = some name
        ∧ (name ∈ shape.fields ∧ name ∉ seen ∧ shape.set start name tree = .ok next
            ∧ seen' = name :: seen
          ∨ name ∉ shape.fields ∧ tree.skippedFault? = none ∧ seen' = seen ∧ next = start) := by
  constructor
  · intro taken
    obtain ⟨name, named, taken⟩ := bind_eq_ok.mp taken
    refine ⟨name, readName_eq_ok.mp named, ?_⟩
    split at taken
    next field =>
      split at taken
      next => contradiction
      next fresh =>
        obtain ⟨_, set, taken⟩ := bind_eq_ok.mp taken
        obtain ⟨rfl, rfl⟩ := Prod.mk.inj (Except.ok.inj taken)
        exact .inl ⟨field, fresh, set, rfl⟩
    next unknown =>
      obtain ⟨_, clear, taken⟩ := bind_eq_ok.mp taken
      obtain ⟨rfl, rfl⟩ := Prod.mk.inj (Except.ok.inj taken)
      exact .inr ⟨unknown, requireNoFault_eq_ok.mp clear, rfl, rfl⟩
  · rintro ⟨name, rfl, ⟨field, fresh, set, rfl⟩ | ⟨unknown, clear, rfl, rfl⟩⟩
    all_goals refine bind_eq_ok.mpr ⟨name, rfl, ?_⟩
    · rw [if_pos field, if_neg fresh]
      exact bind_eq_ok.mpr ⟨next, set, rfl⟩
    · rw [if_neg unknown]
      exact bind_eq_ok.mpr ⟨(), requireNoFault_eq_ok.mpr clear, rfl⟩

/-- The members of an object that are fields. -/
def selected (shape : RecordShape Draft α) (members : List (Option String × Tree))
    : List (String × Tree) :=
  members.filterMap fun member =>
    member.1.bind fun name => if name ∈ shape.fields then some (name, member.2) else none

/-- The members of an object make a draft: each is a field or can be skipped, and no field
comes twice.
-/
structure Takes (shape : RecordShape Draft α) (seen : List String) (start : Draft)
    (members : List (Option String × Tree)) (draft : Draft) : Prop where
  named : ∀ m ∈ members, ∃ name, m.1 = some name
    ∧ (name ∈ shape.fields ∨ m.2.skippedFault? = none)
  distinct : ((shape.selected members).map Prod.fst).Nodup
  fresh : ∀ name ∈ (shape.selected members).map Prod.fst, name ∉ seen
  sets : (shape.selected members).foldlM (fun draft field => shape.set draft field.1 field.2) start
    = .ok draft

section Takes

variable {name : String} {tree : Tree} {members : List (Option String × Tree)}
  {seen : List String} {start draft : Draft}

theorem takes_nil : shape.Takes seen start [] draft ↔ start = draft := by
  constructor
  · exact fun h => Except.ok.inj h.sets
  · rintro rfl
    exact ⟨List.forall_mem_nil _, List.nodup_nil, List.forall_mem_nil _, rfl⟩

theorem takes_cons_field (field : name ∈ shape.fields)
    : shape.Takes seen start ((some name, tree) :: members) draft
      ↔ name ∉ seen ∧ ∃ next, shape.set start name tree = .ok next
        ∧ shape.Takes (name :: seen) next members draft := by
  have shown
      : shape.selected ((some name, tree) :: members) = (name, tree) :: shape.selected members := by
    simp [selected, field]
  constructor
  · rintro ⟨named, distinct, fresh, sets⟩
    rw [shown] at distinct fresh sets
    obtain ⟨apart, distinct⟩ := List.nodup_cons.mp distinct
    obtain ⟨first, others⟩ := List.forall_mem_cons.mp fresh
    obtain ⟨next, set, rest⟩ := bind_eq_ok.mp sets
    refine ⟨first, next, set, (List.forall_mem_cons.mp named).2, distinct, ?_, rest⟩
    intro other present
    rw [List.mem_cons, not_or]
    exact ⟨fun same => apart (same ▸ present), others other present⟩
  · rintro ⟨first, next, set, named, distinct, fresh, sets⟩
    refine ⟨List.forall_mem_cons.mpr ⟨⟨name, rfl, .inl field⟩, named⟩, ?_, ?_, ?_⟩
    all_goals rw [shown]
    · exact List.nodup_cons.mpr ⟨fun present => fresh name present List.mem_cons_self, distinct⟩
    · refine List.forall_mem_cons.mpr ⟨first, fun other present before => ?_⟩
      exact fresh other present (List.mem_cons_of_mem _ before)
    · exact bind_eq_ok.mpr ⟨next, set, sets⟩

theorem takes_cons_unknown (unknown : name ∉ shape.fields)
    : shape.Takes seen start ((some name, tree) :: members) draft
      ↔ tree.skippedFault? = none ∧ shape.Takes seen start members draft := by
  have hidden : shape.selected ((some name, tree) :: members) = shape.selected members := by
    simp [selected, unknown]
  constructor
  · rintro ⟨named, distinct, fresh, sets⟩
    rw [hidden] at distinct fresh sets
    obtain ⟨⟨_, same, kind⟩, named⟩ := List.forall_mem_cons.mp named
    obtain rfl := Option.some.inj same
    exact ⟨kind.resolve_left unknown, named, distinct, fresh, sets⟩
  · rintro ⟨clear, named, distinct, fresh, sets⟩
    refine ⟨List.forall_mem_cons.mpr ⟨⟨name, rfl, .inr clear⟩, named⟩, ?_, ?_, ?_⟩
    all_goals rwa [hidden]

/-- Members are taken when they make a draft, by induction on them. -/
theorem takes_iff
    : shape.Takes seen start members draft
      ↔ ∃ names, members.foldlM shape.takeMember (seen, start) = .ok (names, draft) := by
  induction members generalizing seen start with
  | nil =>
      rw [takes_nil]
      constructor
      · rintro rfl
        exact ⟨seen, rfl⟩
      · rintro ⟨names, run⟩
        exact (Prod.mk.inj (Except.ok.inj run)).2
  | cons member members ih =>
      obtain ⟨given, tree⟩ := member
      constructor
      · intro h
        obtain ⟨⟨name, rfl, -⟩, -⟩ := List.forall_mem_cons.mp h.named
        by_cases field : name ∈ shape.fields
        · obtain ⟨fresh, next, set, others⟩ := (takes_cons_field field).mp h
          obtain ⟨names, run⟩ := ih.mp others
          refine ⟨names, bind_eq_ok.mpr ⟨(name :: seen, next), ?_, run⟩⟩
          exact takeMember_eq_ok.mpr ⟨name, rfl, .inl ⟨field, fresh, set, rfl⟩⟩
        · obtain ⟨clear, others⟩ := (takes_cons_unknown field).mp h
          obtain ⟨names, run⟩ := ih.mp others
          refine ⟨names, bind_eq_ok.mpr ⟨(seen, start), ?_, run⟩⟩
          exact takeMember_eq_ok.mpr ⟨name, rfl, .inr ⟨field, clear, rfl, rfl⟩⟩
      · rintro ⟨names, run⟩
        obtain ⟨⟨seen', next⟩, taken, rest⟩ := bind_eq_ok.mp run
        have others := ih.mpr ⟨names, rest⟩
        obtain ⟨name, rfl, ⟨field, fresh, set, rfl⟩ | ⟨unknown, clear, rfl, rfl⟩⟩ :=
          takeMember_eq_ok.mp taken
        · exact (takes_cons_field field).mpr ⟨fresh, next, set, others⟩
        · exact (takes_cons_unknown unknown).mpr ⟨clear, others⟩

end Takes

/-- The object of distinct known fields is read as the draft they make. -/
theorem read_object {members : List (String × Json)} (draft : Draft) {value : α}
    (known : ∀ member ∈ members, member.1 ∈ shape.fields)
    (distinct : (members.map Prod.fst).Nodup)
    (sets : members.foldlM (fun draft member => shape.set draft member.1 member.2.tree)
        shape.empty
      = .ok draft)
    (finish : shape.finish draft = .ok value)
    : shape.read (Json.object members).tree = .ok value := by
  have fields
      : shape.selected (Json.memberTrees members) = members.map fun m => (m.1, m.2.tree) := by
    rw [Json.memberTrees_eq_map, selected, List.filterMap_map, ← List.filterMap_eq_map]
    exact List.filterMap_congr fun m member => by simp [known m member]
  have takes : shape.Takes [] shape.empty (Json.memberTrees members) draft := by
    refine ⟨?_, ?_, fun _ _ => List.not_mem_nil, ?_⟩
    · rw [Json.memberTrees_eq_map]
      exact List.forall_mem_map.mpr fun m member => ⟨m.1, rfl, .inl (known m member)⟩
    · rwa [fields, List.map_map]
    · rwa [fields, List.foldlM_map]
  obtain ⟨names, run⟩ := takes_iff.mp takes
  exact readMembers_eq_ok.mpr ⟨names, draft, run, rfl, finish⟩

end RecordShape

/-- A written array is read item by item. -/
theorem Tree.readList_array {α β : Type} {read : Tree → Except ReadError β} {items : List α}
    {write : α → Json} {f : α → β}
    (each : ∀ item ∈ items, read (write item).tree = .ok (f item))
    : Tree.readList read (Json.array (items.map write)).tree = .ok (items.map f) := by
  have values : ((items.map write).map Json.tree).mapM read = .ok (items.map f) := by
    rw [mapM_eq_ok_iff, List.map_map, List.forall₂_map_left_iff, List.forall₂_map_right_iff]
    exact List.forall₂_same.mpr each
  rw [Json.tree, Json.itemTrees_eq_map]
  exact bind_eq_ok.mpr ⟨_, values, rfl⟩

/-- Every value of a list was read from some tree. -/
theorem Tree.mem_of_readList {α : Type} {read : Tree → Except ReadError α} {tree : Tree}
    {values : List α} (h : tree.readList read = .ok values)
    : ∀ value ∈ values, ∃ item, read item = .ok value := by
  unfold readList at h
  split at h
  · obtain ⟨read, mapped, h⟩ := bind_eq_ok.mp h
    obtain ⟨_, _, h⟩ := bind_eq_ok.mp h
    obtain rfl := Except.ok.inj h
    intro value member
    obtain ⟨item, _, read⟩ := exists_mem_of_forall₂ (mapM_eq_ok_iff.mp mapped).flip value member
    exact ⟨item, read⟩
  · exact absurd h (mismatch_ne_ok _ _ _)

/-- The signed integers of 64 bits. -/
def IsInt64 (value : Int) : Prop := -(2 ^ 63) ≤ value ∧ value < 2 ^ 63

instance (value : Int) : Decidable (IsInt64 value) :=
  inferInstanceAs (Decidable (_ ∧ _))

/-- Only integers of 64 bits are read as such. -/
theorem Tree.readInt64_ok {tree : Tree} {value : Int} (h : tree.readInt64 = .ok value)
    : IsInt64 value := by
  unfold readInt64 at h
  split at h
  · split at h
    next range => exact Except.ok.inj h ▸ range
    next => contradiction
  · exact absurd h (mismatch_ne_ok _ _ _)

end PerfLedger
