import Mathlib.Data.List.Forall2
import Mathlib.Data.List.Perm.Basic
import PerfLedger.Proofs.Json.Documents
import PerfLedger.Proofs.Json.Fields

/-! Objects with their members in another order and others of unknown names among them. Records
are read from these as before, if what is read of each field is the same.
-/

namespace PerfLedger

-----------------------------------------------------------------------------------------
-- Runs over related lists
-----------------------------------------------------------------------------------------

section Runs

variable {ε α α' β : Type}

/-- Steps that can always be taken in either order lead to the same result in any order. -/
theorem foldlM_perm {step : β → α → Except ε β} (Apart : α → α → Prop)
    (symm : ∀ {x y}, Apart x y → Apart y x)
    (swap : ∀ {x y}, Apart x y → ∀ {start middle result}, step start x = .ok middle →
      step middle y = .ok result →
      ∃ other, step start y = .ok other ∧ step other x = .ok result)
    {items items' : List α} (perm : items.Perm items') (apart : items.Pairwise Apart)
    {start result : β} (run : items.foldlM step start = .ok result)
    : items'.foldlM step start = .ok result := by
  induction perm generalizing start with
  | nil => exact run
  | cons x _ ih =>
      obtain ⟨middle, first, rest⟩ := bind_eq_ok.mp run
      exact bind_eq_ok.mpr ⟨middle, first, ih (List.pairwise_cons.mp apart).2 rest⟩
  | swap x y items =>
      obtain ⟨middle, first, run⟩ := bind_eq_ok.mp run
      obtain ⟨next, second, rest⟩ := bind_eq_ok.mp run
      have apart : Apart y x := (List.pairwise_cons.mp apart).1 x List.mem_cons_self
      obtain ⟨other, second, first⟩ := swap apart first second
      exact bind_eq_ok.mpr ⟨other, second, bind_eq_ok.mpr ⟨next, first, rest⟩⟩
  | trans perm _ ih ih' =>
      exact ih' ((perm.pairwise_iff fun {_ _} => symm).mp apart) (ih apart run)

/-- Items that are stepped through alike lead to the same result, by induction on them. -/
theorem foldlM_forall₂ {step : β → α → Except ε β} {step' : β → α' → Except ε β}
    {R : α → α' → Prop} {items : List α} {items' : List α'} (related : List.Forall₂ R items items')
    (alike : ∀ x x', x' ∈ items' → R x x' → ∀ state next, step state x = .ok next →
      step' state x' = .ok next)
    {start result : β} (run : items.foldlM step start = .ok result)
    : items'.foldlM step' start = .ok result := by
  induction related generalizing start with
  | nil => exact run
  | cons first _ ih =>
      obtain ⟨middle, stepped, rest⟩ := bind_eq_ok.mp run
      refine bind_eq_ok.mpr ⟨middle, alike _ _ List.mem_cons_self first _ _ stepped, ?_⟩
      exact ih (fun x x' member => alike x x' (List.mem_cons_of_mem _ member)) rest

/-- Items that are read alike have the same values, by induction on them. -/
theorem mapM_forall₂ {read : α → Except ε β} {read' : α' → Except ε β}
    {R : α → α' → Prop} {items : List α} {items' : List α'} (related : List.Forall₂ R items items')
    (alike : ∀ x x', x' ∈ items' → R x x' → ∀ value, read x = .ok value → read' x' = .ok value)
    {values : List β} (run : items.mapM read = .ok values)
    : items'.mapM read' = .ok values := by
  rw [mapM_eq_ok_iff] at run ⊢
  induction related generalizing values with
  | nil => exact List.forall₂_nil_left_iff.mp run ▸ .nil
  | cons first _ ih =>
      obtain ⟨value, others, read, rest, rfl⟩ := List.forall₂_cons_left_iff.mp run
      refine .cons (alike _ _ List.mem_cons_self first _ read) ?_
      exact ih (fun x x' member => alike x x' (List.mem_cons_of_mem _ member)) rest

/-- Items that agree in one respect have the same list of it. -/
theorem map_eq_of_forall₂ {γ : Type} {R : α → α' → Prop} {f : α → γ} {g : α' → γ}
    (agree : ∀ {x x'}, R x x' → g x' = f x) {items : List α} {items' : List α'}
    (related : List.Forall₂ R items items')
    : items'.map g = items.map f := by
  induction related with
  | nil => rfl
  | cons first _ ih => rw [List.map_cons, List.map_cons, agree first, ih]

end Runs

-----------------------------------------------------------------------------------------
-- Rearranged trees
-----------------------------------------------------------------------------------------

section Trees

variable (fields : List String) (value : String → Tree → Tree → Prop)

/-- A field of the same name with a value that is related. -/
def SameField (f f' : String × Tree) : Prop := f'.1 = f.1 ∧ value f.1 f.2 f'.2

/-- A member of the same name with a value that is related. -/
def SameMember (m m' : Option String × Tree) : Prop :=
  m'.1 = m.1 ∧ ∀ name, m.1 = some name → value name m.2 m'.2

/-- A record in another arrangement. The members of an object stand in any order, with others
among them whose names are not those of fields; the items of an array keep their places.
-/
inductive Rearranged : Tree → Tree → Prop where
  | object {members changed extra members' : List (Option String × Tree)}
      (each : List.Forall₂ (SameMember value) members changed)
      (unknown : ∀ m ∈ extra, ∃ name, m.1 = some name ∧ name ∉ fields)
      (order : members'.Perm (changed ++ extra))
      : Rearranged (.object members .closed) (.object members' .closed)
  | array {items items' : List Tree} (count : items'.length = items.length)
      (each : List.Forall₂ (SameField value) (fields.zip items) (fields.zip items'))
      : Rearranged (.array items .closed) (.array items' .closed)

/-- A list with each item in another arrangement. -/
inductive EachRearranged (item : Tree → Tree → Prop) : Tree → Tree → Prop where
  | array {items items' : List Tree} (each : List.Forall₂ item items items')
      : EachRearranged item (.array items .closed) (.array items' .closed)

end Trees

-----------------------------------------------------------------------------------------
-- Reading
-----------------------------------------------------------------------------------------

/-- A whole object has whole members. -/
theorem Tree.Whole.members {members : List (Option String × Tree)} {closing : Closing}
    (h : (Tree.object members closing).Whole)
    : ∀ m ∈ members, m.2.Whole := by
  cases h with
  | object all => exact all

/-- A whole array has whole items. -/
theorem Tree.Whole.items {items : List Tree} {closing : Closing}
    (h : (Tree.array items closing).Whole)
    : ∀ item ∈ items, item.Whole := by
  cases h with
  | array all => exact all

theorem closed_of_requireNoFault {closing : Closing}
    (clear : requireNoFault closing.fault? = .ok ())
    : closing = .closed := by
  cases closing with
  | closed => rfl
  | _ => contradiction

namespace RecordShape

variable {Draft α : Type} {shape : RecordShape Draft α}

/-- Fields of different names can be read in either order. -/
def Commutes (shape : RecordShape Draft α) : Prop :=
  ∀ {a b}, a ∈ shape.fields → b ∈ shape.fields → a ≠ b → ∀ {start middle result x y},
    shape.set start a x = .ok middle → shape.set middle b y = .ok result →
      ∃ other, shape.set start b y = .ok other ∧ shape.set other a x = .ok result

/-- Two values are read and stored in either order, if they are stored apart. -/
theorem store_swap {Cause α β : Type} {read : Except Cause α} {read' : Except Cause β}
    {store : α → Draft → Draft} {store' : β → Draft → Draft} (start middle : Draft) {result : Draft}
    (first : (read >>= fun v => .ok (store v start)) = .ok middle)
    (second : (read' >>= fun w => .ok (store' w middle)) = .ok result)
    (apart : ∀ v w, store' w (store v start) = store v (store' w start))
    : ∃ other, (read' >>= fun w => .ok (store' w start)) = .ok other
        ∧ (read >>= fun v => .ok (store v other)) = .ok result := by
  obtain ⟨v, read, first⟩ := bind_eq_ok.mp first
  obtain ⟨w, read', second⟩ := bind_eq_ok.mp second
  cases first
  cases second
  exact ⟨_, bind_eq_ok.mpr ⟨w, read', rfl⟩, bind_eq_ok.mpr ⟨v, read, congrArg _ (apart v w).symm⟩⟩

/-- Related values of a field are read alike, if the second of them is whole. -/
def Respects (shape : RecordShape Draft α) (value : String → Tree → Tree → Prop) : Prop :=
  ∀ {name}, name ∈ shape.fields → ∀ {x x'}, value name x x' → x'.Whole → ∀ {start next},
    shape.set start name x = .ok next → shape.set start name x' = .ok next

variable {value : String → Tree → Tree → Prop}

/-- What a field can be read from is related to itself, and so is what is no field. -/
structure Relates (shape : RecordShape Draft α) (value : String → Tree → Tree → Prop) : Prop where
  field : ∀ {name}, name ∈ shape.fields → ∀ {x start next}, shape.set start name x = .ok next →
    value name x x
  other : ∀ {name}, name ∉ shape.fields → ∀ x, value name x x

/-- A record is read from a container that is closed, and this is an arrangement of itself. -/
theorem rearranged_self (relates : shape.Relates value) {tree : Tree} {result : α}
    (read : shape.read tree = .ok result)
    : Rearranged shape.fields value tree tree := by
  unfold RecordShape.read at read
  split at read
  next members closing =>
    obtain ⟨names, draft, run, clear, -⟩ := readMembers_eq_ok.mp read
    obtain rfl := closed_of_requireNoFault clear
    have takes := takes_iff.mpr ⟨names, run⟩
    have each (m : Option String × Tree) (member : m ∈ members) : SameMember value m m := by
      refine ⟨rfl, fun name named => ?_⟩
      by_cases field : name ∈ shape.fields
      · have shown : (name, m.2) ∈ shape.selected members :=
          List.mem_filterMap.mpr ⟨m, member, by simp [named, field]⟩
        obtain ⟨_, _, set⟩ := exists_step_of_foldlM takes.sets _ shown
        exact relates.field field set
      · exact relates.other field m.2
    have order : members.Perm (members ++ []) := (List.append_nil members).symm ▸ .refl _
    exact .object (List.forall₂_same.mpr each) (List.forall_mem_nil _) order
  next items closing =>
    obtain ⟨draft, run, clear, -⟩ := readItems_eq_ok.mp read
    obtain rfl := closed_of_requireNoFault clear
    refine .array rfl (List.forall₂_same.mpr fun f member => ⟨rfl, ?_⟩)
    obtain ⟨_, _, set⟩ := exists_step_of_foldlM run f member
    exact relates.field (List.of_mem_zip member).1 set
  next => exact absurd read (Tree.mismatch_ne_ok _ _ _)

theorem relates_eq : shape.Relates fun _ => Eq :=
  ⟨fun _ _ _ _ _ => rfl, fun _ _ => rfl⟩

/-- Fields that are left as they are are read alike. -/
theorem respects_eq : shape.Respects fun _ => Eq := by
  rintro name _ x _ rfl _ start next set
  exact set

theorem mem_selected {members : List (Option String × Tree)} {f : String × Tree}
    (h : f ∈ shape.selected members)
    : f.1 ∈ shape.fields ∧ (some f.1, f.2) ∈ members := by
  obtain ⟨⟨given, tree⟩, present, shown⟩ := List.mem_filterMap.mp h
  obtain ⟨name, rfl, shown⟩ := Option.bind_eq_some_iff.mp shown
  obtain ⟨field, same⟩ := Option.ite_none_right_eq_some.mp shown
  obtain rfl := Option.some.inj same
  exact ⟨field, present⟩

/-- Members that are related have related fields, by induction on them. -/
theorem selected_forall₂ {members changed : List (Option String × Tree)}
    (each : List.Forall₂ (SameMember value) members changed)
    : List.Forall₂ (SameField value) (shape.selected members) (shape.selected changed) := by
  induction each with
  | nil => exact .nil
  | @cons m m' _ _ first _ ih =>
      obtain ⟨given, tree⟩ := m
      obtain ⟨given', tree'⟩ := m'
      obtain ⟨rfl, related⟩ : given' = given ∧ ∀ name, given = some name → value name tree tree' :=
        first
      unfold selected at ih ⊢
      simp only [List.filterMap_cons]
      cases given' with
      | none => exact ih
      | some name =>
          by_cases field : name ∈ shape.fields
          · simp only [Option.bind_some, if_pos field]
            exact .cons ⟨rfl, related name rfl⟩ ih
          · simp only [Option.bind_some, if_neg field]
            exact ih

/-- Members that are not fields add nothing. -/
theorem selected_eq_nil {extra : List (Option String × Tree)}
    (unknown : ∀ m ∈ extra, ∃ name, m.1 = some name ∧ name ∉ shape.fields)
    : shape.selected extra = [] := by
  refine List.filterMap_eq_nil_iff.mpr fun m member => ?_
  obtain ⟨name, named, other⟩ := unknown m member
  simp [named, other]

/-- Members in another arrangement make the same draft. -/
theorem Takes.rearranged (commutes : shape.Commutes) (respects : shape.Respects value)
    {members changed extra members' : List (Option String × Tree)} {start draft : Draft}
    (each : List.Forall₂ (SameMember value) members changed)
    (unknown : ∀ m ∈ extra, ∃ name, m.1 = some name ∧ name ∉ shape.fields)
    (order : members'.Perm (changed ++ extra)) (whole : ∀ m ∈ members', m.2.Whole)
    (h : shape.Takes [] start members draft)
    : shape.Takes [] start members' draft := by
  have order' : (shape.selected changed).Perm (shape.selected members') := by
    have perm : (shape.selected members').Perm (shape.selected (changed ++ extra)) :=
      order.filterMap _
    have more : shape.selected (changed ++ extra) = shape.selected changed := by
      rw [selected, List.filterMap_append]
      exact (congrArg _ (selected_eq_nil unknown)).trans (List.append_nil _)
    rw [more] at perm
    exact perm.symm
  have related : List.Forall₂ (SameField value) (shape.selected members) (shape.selected changed) :=
    selected_forall₂ each
  have distinct : ((shape.selected changed).map Prod.fst).Nodup := by
    rw [map_eq_of_forall₂ And.left related]
    exact h.distinct
  have apart
      : (shape.selected changed).Pairwise fun f g =>
        f.1 ∈ shape.fields ∧ g.1 ∈ shape.fields ∧ f.1 ≠ g.1 := by
    refine (List.pairwise_map.mp distinct).imp_of_mem fun hf hg other => ?_
    exact ⟨(mem_selected hf).1, (mem_selected hg).1, other⟩
  refine ⟨?_, (order'.map Prod.fst).nodup_iff.mp distinct, fun _ _ => List.not_mem_nil, ?_⟩
  · intro m member
    have clear := (whole m member).skippedFault?
    rcases List.mem_append.mp (order.mem_iff.mp member) with member | member
    · have names : changed.map Prod.fst = members.map Prod.fst := map_eq_of_forall₂ And.left each
      have present : m.1 ∈ members.map Prod.fst := names ▸ List.mem_map_of_mem member
      obtain ⟨original, present, same⟩ := List.mem_map.mp present
      obtain ⟨name, named, _⟩ := h.named original present
      exact ⟨name, same ▸ named, .inr clear⟩
    · obtain ⟨name, named, _⟩ := unknown m member
      exact ⟨name, named, .inr clear⟩
  · refine foldlM_perm _ (fun h => ⟨h.2.1, h.1, h.2.2.symm⟩) ?_ order' apart ?_
    · exact fun h => commutes h.1 h.2.1 h.2.2
    · refine foldlM_forall₂ related ?_ h.sets
      rintro ⟨name, x⟩ ⟨name', x'⟩ member ⟨rfl, same⟩ state next set
      obtain ⟨field, present⟩ := mem_selected member
      exact respects field same (whole _ (order.mem_iff.mpr (List.mem_append_left _ present))) set

/-- A record in another arrangement is read as the same record. -/
theorem read_rearranged (commutes : shape.Commutes) (respects : shape.Respects value)
    {tree tree' : Tree} (related : Rearranged shape.fields value tree tree') (whole : tree'.Whole)
    {result : α} (read : shape.read tree = .ok result)
    : shape.read tree' = .ok result := by
  cases related with
  | object each unknown order =>
      obtain ⟨names, draft, run, clear, finished⟩ := readMembers_eq_ok.mp read
      have takes := (takes_iff.mpr ⟨names, run⟩).rearranged commutes respects each unknown order
        whole.members
      obtain ⟨names, run⟩ := takes_iff.mp takes
      exact readMembers_eq_ok.mpr ⟨names, draft, run, clear, finished⟩
  | array count each =>
      obtain ⟨draft, run, clear, fits, finished⟩ := readItems_eq_ok.mp read
      refine readItems_eq_ok.mpr ⟨draft, ?_, clear, count ▸ fits, finished⟩
      refine foldlM_forall₂ each ?_ run
      rintro ⟨name, x⟩ ⟨name', x'⟩ member ⟨rfl, same⟩ state next set
      obtain ⟨field, present⟩ := List.of_mem_zip member
      exact respects field same (whole.items x' present) set

end RecordShape

/-- A list with its items in another arrangement is read as the same list. -/
theorem Tree.readList_rearranged {α : Type} {read : Tree → Except ReadError α}
    {item : Tree → Tree → Prop}
    (alike : ∀ {x x'}, item x x' → x'.Whole → ∀ {value}, read x = .ok value → read x' = .ok value)
    {tree tree' : Tree} (related : EachRearranged item tree tree') (whole : tree'.Whole)
    {values : List α} (h : tree.readList read = .ok values)
    : tree'.readList read = .ok values := by
  cases related with
  | array each =>
      obtain ⟨values, mapped, h⟩ := bind_eq_ok.mp h
      refine bind_eq_ok.mpr ⟨values, mapM_forall₂ each ?_ mapped, h⟩
      exact fun x x' member same value read => alike same (whole.items x' member) read

/-- A list is read from an array that is closed, and this is an arrangement of itself. -/
theorem Tree.eachRearranged_self {α : Type} {read : Tree → Except ReadError α}
    {item : Tree → Tree → Prop} (each : ∀ {x value}, read x = .ok value → item x x)
    {tree : Tree} {values : List α} (h : tree.readList read = .ok values)
    : EachRearranged item tree tree := by
  unfold readList at h
  split at h
  next items closing =>
    obtain ⟨_, mapped, h⟩ := bind_eq_ok.mp h
    obtain ⟨_, clear, _⟩ := bind_eq_ok.mp h
    obtain rfl := closed_of_requireNoFault clear
    refine .array (List.forall₂_same.mpr fun x member => ?_)
    obtain ⟨_, _, read⟩ := exists_mem_of_forall₂ (mapM_eq_ok_iff.mp mapped) x member
    exact each read
  next => exact absurd h (mismatch_ne_ok _ _ _)

end PerfLedger
