import PerfLedger.Proofs.Ledger.Series
import PerfLedger.Proofs.Text.Lowering
import PerfLedger.Settings.Environment

/-! Tables of settings after layers have been laid over each other. Under each name there is one
value, and no name has a capital letter of ASCII.
-/

namespace PerfLedger

-----------------------------------------------------------------------------------------
-- Small names
-----------------------------------------------------------------------------------------

/-- No capital letter of ASCII is in the text. -/
def IsSmall (name : String) : Prop := ∀ c ∈ name.toList, c.isUpper = false

theorem isUpper_of_not_ascii {c : Char} (outside : 128 ≤ c.toNat) : c.isUpper = false := by
  simp [Char.isUpper, UInt32.le_iff_toNat_le]
  omega

/-- A small letter is no capital letter of ASCII. -/
theorem isUpper_lowerChar (c : Char) : (lowerChar c).isUpper = false := by
  rcases Nat.lt_or_ge c.toNat 128 with ascii | outside
  · exact of_ascii c ascii (by decide +kernel)
  · by_cases kelvin : c = '\u212A'
    · subst kelvin
      decide +kernel
    · rcases lowerChar_of_not_ascii outside kelvin with same | ⟨-, foreign, -⟩
      · rw [same]
        exact isUpper_of_not_ascii outside
      · exact isUpper_of_not_ascii foreign.1

theorem isUpper_lowerFrom (inWord : Bool) (text : List Char)
    : ∀ c ∈ lowerFrom inWord text, c.isUpper = false := by
  induction text generalizing inWord with
  | nil => exact List.forall_mem_nil _
  | cons c text ih =>
      unfold lowerFrom
      dsimp only
      split
      · exact List.forall_mem_cons.mpr ⟨rfl, List.forall_mem_cons.mpr ⟨by decide, ih _⟩⟩
      · split
        · exact List.forall_mem_cons.mpr ⟨by decide, ih _⟩
        · exact List.forall_mem_cons.mpr ⟨isUpper_lowerChar c, ih _⟩

theorem isSmall_lowerText (s : String) : IsSmall (lowerText s) := by
  rw [IsSmall, lowerText, String.toList_ofList]
  exact isUpper_lowerFrom false s.toList

/-- A small name is the same in small letters. -/
theorem IsSmall.toLower_eq {name : String} (h : IsSmall name) : name.toLower = name := by
  rw [← String.toList_inj, String.toLower, String.toList_map]
  refine (List.map_congr_left fun c member => ?_).trans (List.map_id _)
  exact Char.toLower_eq_of_not_isUpper (Bool.eq_false_iff.mp (h c member))

-----------------------------------------------------------------------------------------
-- Places
-----------------------------------------------------------------------------------------

namespace Setting

/-- The value at a place, which is found under the names of the place one after the other. -/
def at? : Setting → List String → Option Setting
  | value, [] => some value
  | value, name :: place => (value.members.lookup name).bind fun inner => inner.at? place

variable {name other : String} {value : Setting} {base : SettingTable}

/-- Only the value under an assigned name is another one. -/
theorem lookup_assign (name : String) (value : Setting) (base : SettingTable) (other : String)
    : (assign name value base).lookup other
      = if other = name then some value else base.lookup other := by
  induction base with
  | nil => rw [assign, lookup_cons_eq_ite]
  | cons m base ih =>
      obtain ⟨first, old⟩ := m
      rw [assign]
      split
      next same =>
        subst same
        rw [lookup_cons_eq_ite, lookup_cons_eq_ite]
        split <;> rfl
      next apart =>
        rw [lookup_cons_eq_ite, lookup_cons_eq_ite, ih]
        split
        next here =>
          rw [if_neg (by rintro rfl; exact apart here.symm)]
        next => rfl

theorem mem_assign {m : String × Setting} (member : m ∈ assign name value base)
    : m = (name, value) ∨ m ∈ base := by
  induction base with
  | nil => exact .inl (List.mem_singleton.mp member)
  | cons first base ih =>
      rw [assign] at member
      split at member
      · exact (List.mem_cons.mp member).imp_right (List.mem_cons_of_mem _)
      · rcases List.mem_cons.mp member with rfl | member
        · exact .inr List.mem_cons_self
        · exact (ih member).imp_right (List.mem_cons_of_mem _)

/-- An assigned name takes the place of the same name, or comes last. -/
theorem map_fst_assign (name : String) (value : Setting) (base : SettingTable)
    : (assign name value base).map Prod.fst
      = if name ∈ base.map Prod.fst then base.map Prod.fst else base.map Prod.fst ++ [name] := by
  induction base with
  | nil => rfl
  | cons first base ih =>
      rw [assign]
      split
      next same => simp [same]
      next apart =>
        have apart' : name ≠ first.1 := fun same => apart same.symm
        simp only [List.map_cons, List.mem_cons, ih, apart', false_or]
        split <;> rfl

-----------------------------------------------------------------------------------------
-- Tidy tables
-----------------------------------------------------------------------------------------

/-- A table is tidy if its names are different and small, and so are those of the tables in it.
What is no table is tidy.
-/
inductive Tidy : Setting → Prop where
  | of_members {value : Setting} (different : (value.members.map Prod.fst).Nodup)
      (small : ∀ m ∈ value.members, IsSmall m.1) (inner : ∀ m ∈ value.members, Tidy m.2)
      : Tidy value

theorem Tidy.of_members_eq_nil (none : value.members = []) : Tidy value := by
  constructor <;> simp [none]

theorem Tidy.different (h : Tidy value) : (value.members.map Prod.fst).Nodup := by
  cases h with
  | of_members different => exact different

theorem Tidy.small (h : Tidy value) : ∀ m ∈ value.members, IsSmall m.1 := by
  cases h with
  | of_members _ small => exact small

theorem Tidy.inner (h : Tidy value) : ∀ m ∈ value.members, Tidy m.2 := by
  cases h with
  | of_members _ _ inner => exact inner

/-- What is found in a tidy table is tidy. -/
theorem Tidy.lookup (h : Tidy value) {found : Setting}
    (present : value.members.lookup name = some found)
    : Tidy found :=
  h.inner _ (mem_of_lookup present)

theorem Tidy.getD_lookup (h : Tidy value) (name : String)
    : Tidy ((value.members.lookup name).getD unset) := by
  cases found : value.members.lookup name with
  | none => exact .of_members_eq_nil rfl
  | some inner => exact h.lookup found

/-- What is at a place in a tidy table is tidy, by induction on the place. -/
theorem Tidy.at? {value found : Setting} (h : Tidy value) {place : List String}
    (present : value.at? place = some found)
    : Tidy found := by
  induction place generalizing value with
  | nil => exact Option.some.inj present ▸ h
  | cons name place ih =>
      obtain ⟨inner, first, rest⟩ := Option.bind_eq_some_iff.mp present
      exact ih (h.lookup first) rest

theorem Tidy.assign (h : Tidy (table base)) (small : IsSmall name) (tidy : Tidy value)
    : Tidy (table (assign name value base)) := by
  constructor
  · rw [members, map_fst_assign]
    split
    · exact h.different
    next fresh =>
      refine List.nodup_append.mpr ⟨h.different, List.nodup_singleton _, ?_⟩
      rintro other old _ new rfl
      exact fresh (List.mem_singleton.mp new ▸ old)
  · intro m member
    rcases mem_assign member with rfl | old
    · exact small
    · exact h.small m old
  · intro m member
    rcases mem_assign member with rfl | old
    · exact tidy
    · exact h.inner m old

theorem tidy_getD_members {old : Option Setting} (h : ∀ value ∈ old, Tidy value)
    : Tidy (table ((old.map members).getD [])) := by
  cases old with
  | none => exact .of_members_eq_nil rfl
  | some old =>
      obtain ⟨different, small, inner⟩ := h old rfl
      exact .of_members different small inner

mutual

/-- A value that is laid over a tidy one is tidy, by recursion on the value. -/
theorem tidy_laid (old : Option Setting) (value : Setting) (h : ∀ value ∈ old, Tidy value)
    : Tidy (laid old value) := by
  match value with
  | .table [] =>
      cases old with
      | none => exact .of_members_eq_nil rfl
      | some old => exact h old rfl
  | .table (first :: more) =>
      rw [laid]
      exact tidy_mergeMembers (first :: more) _ (tidy_getD_members h)
  | .unset | .text _ | .int _ | .real _ | .bool _ | .list _ => exact .of_members_eq_nil rfl
termination_by sizeOf value

theorem tidy_mergeMembers (later base : SettingTable) (h : Tidy (table base))
    : Tidy (table (mergeMembers later base)) := by
  match later with
  | [] => exact h
  | (name, value) :: rest =>
      rw [mergeMembers]
      refine tidy_mergeMembers rest _ (h.assign (isSmall_lowerText name) ?_)
      exact tidy_laid _ value fun old present => h.lookup present
termination_by sizeOf later

end

-----------------------------------------------------------------------------------------
-- Tidy layers
-----------------------------------------------------------------------------------------

/-- A path whose names are all small. -/
def SmallPath (path : SettingPath) : Prop := ∀ name, .member name ∈ path → IsSmall name

/-- A value that is laid into a tidy table leaves it tidy, by recursion on the path. -/
theorem tidy_layAt (value : Setting) {path : SettingPath} (small : SmallPath path)
    (nonempty : path ≠ []) {old : Setting} (h : Tidy old)
    : Tidy (layAt value path old) := by
  have kept : Tidy (table old.members) := .of_members h.different h.small h.inner
  fun_induction layAt value path old with
  | case1 => exact absurd rfl nonempty
  | case2 name old => exact tidy_mergeMembers _ _ kept
  | case3 name rest old further inner ih =>
      have tail : SmallPath rest := fun other member => small other (List.mem_cons_of_mem _ member)
      have inside := h.getD_lookup name
      refine kept.assign (small name List.mem_cons_self) (ih tail ?_ inside ?_)
      · rintro rfl
        exact further rfl
      · exact .of_members inside.different inside.small inside.inner
  | case4 => exact .of_members_eq_nil rfl
  | case5 => exact .of_members_eq_nil rfl

/-- The names in the steps of a text without capital letters are small. -/
theorem smallPath_steps? {text : List Char} {path : SettingPath}
    (small : ∀ c ∈ text, c.isUpper = false) (read : SettingPath.steps? text = some path)
    : SmallPath path := by
  fun_induction SettingPath.steps? text generalizing path with
  | case1 =>
      cases read
      nofun
  | case3 text name nonempty =>
      rename_i ih
      obtain ⟨steps, rest, rfl⟩ := Option.map_eq_some_iff.mp read
      have tail := List.forall_mem_cons.mp small |>.2
      intro other member
      rcases List.mem_cons.mp member with same | member
      · cases same
        rw [IsSmall, String.toList_ofList]
        exact fun c within => tail c ((List.takeWhile_sublist _).subset within)
      · have shorter := (List.dropWhile_sublist (l := text) SettingPath.isNameChar).subset
        exact ih (fun c within => tail c (shorter within)) rest other member
  | case5 text rest nonempty =>
      rename_i ih
      obtain ⟨position, -, read⟩ := Option.bind_eq_some_iff.mp read
      obtain ⟨steps, further, read⟩ := Option.bind_eq_some_iff.mp read
      cases read
      have tail := List.forall_mem_cons.mp small |>.2
      intro other member
      have inside := (List.mem_cons.mp member).resolve_left nofun
      refine ih (fun c within => tail c ?_) further other inside
      exact ((List.tail_sublist _).trans (List.dropWhile_sublist _)).subset within
  | _ => contradiction

theorem smallPath_ofText {text : String} (small : IsSmall text) : SmallPath (.ofText text) := by
  have whole : SmallPath [.member text] := by
    intro name member
    cases List.mem_singleton.mp member
    exact small
  unfold SettingPath.ofText
  dsimp only
  split
  next steps read =>
    split
    next => exact whole
    next =>
      intro name member
      rcases List.mem_cons.mp member with same | member
      · cases same
        rw [IsSmall, String.toList_ofList]
        exact fun c within => small c ((List.takeWhile_sublist _).subset within)
      · refine smallPath_steps? (fun c within => small c ?_) read name member
        exact (List.dropWhile_sublist _).subset within
  next => exact whole

theorem ofText_ne_nil (text : String) : SettingPath.ofText text ≠ [] := by
  unfold SettingPath.ofText
  dsimp only
  split
  · split <;> nofun
  · nofun

/-- A tidy table stays tidy when a source is laid over it, by induction on the source. -/
theorem tidy_layer {base : SettingTable} (h : Tidy (table base)) (source : SettingTable)
    : Tidy (table (layer base source)) := by
  induction source generalizing base with
  | nil => exact h
  | cons m source ih =>
      have laid := tidy_layAt m.2 (smallPath_ofText (isSmall_lowerText m.1))
        (ofText_ne_nil _) h
      exact ih (.of_members laid.different laid.small laid.inner)

end Setting

end PerfLedger
