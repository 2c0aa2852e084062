import PerfLedger.Proofs.Settings.Tables

/-! Layers of settings, one place at a time. What a layer has no part in stays as it was below, and
what it has a part in is as if there were nothing below.
-/

namespace PerfLedger

-----------------------------------------------------------------------------------------
-- Places
-----------------------------------------------------------------------------------------

/-- The name under which a member is entered on the way to the rest of a path. The last name of a
path is entered in lower case.
-/
def SettingPath.entered (name : String) (rest : SettingPath) : String :=
  if rest.isEmpty then lowerText name else name

/-- A path concerns a place if it leads there, into it, or to something around it. A list takes the
place of a table, so that a position concerns everything in the table.
-/
def SettingPath.concerns : SettingPath → List String → Bool
  | [], _ => true
  | _, [] => true
  | .member name :: path, other :: place => entered name path == other && concerns path place
  | .item _ :: _, _ :: _ => true

namespace Setting

/-- Neither a table nor a list, as all values of variables are. -/
def isPlain : Setting → Bool
  | table _ => false
  | list _ => false
  | _ => true

variable {value old old' : Setting} {place : List String} {path : SettingPath}

theorem at?_cons (value : Setting) (name : String) (place : List String)
    : value.at? (name :: place) = (value.members.lookup name).bind fun inner => inner.at? place :=
  rfl

/-- What is at a place, if anything, is there too when its way starts inside of a table. -/
theorem getD_at?_cons (old : Setting) (name : String) (place : List String)
    : (old.at? (name :: place)).getD unset
      = (((old.members.lookup name).getD unset).at? place).getD unset := by
  rw [at?_cons]
  cases old.members.lookup name with
  | some inner => rfl
  | none => cases place <;> rfl

theorem at?_assign (name : String) (value old : Setting) (other : String) (place : List String)
    : (table (assign name value old.members)).at? (other :: place)
      = if other = name then value.at? place else old.at? (other :: place) := by
  rw [at?_cons, members, lookup_assign]
  split <;> rfl

/-- A plain value is laid through a table by assigning what becomes of one of the members. -/
theorem layAt_member (plain : value.isPlain = true) (name : String) (rest : SettingPath)
    (old : Setting)
    : layAt value (.member name :: rest) old
      = table (assign (SettingPath.entered name rest)
          (layAt value rest
            ((old.members.lookup (SettingPath.entered name rest)).getD unset)) old.members) := by
  cases rest with
  | nil =>
      have same (old : Option Setting) : laid old value = value := by
        cases value <;> first | rfl | contradiction
      change table (mergeMembers [(name, value)] old.members) = _
      rw [mergeMembers, same, mergeMembers]
      rfl
  | cons step rest => rfl

-----------------------------------------------------------------------------------------
-- One value
-----------------------------------------------------------------------------------------

/-- A value that is laid elsewhere leaves what is at a place, by induction on the path. -/
theorem at?_layAt_of_not_concerns (plain : value.isPlain = true)
    (elsewhere : path.concerns place = false)
    : (layAt value path old).at? place = old.at? place := by
  induction path generalizing old place with
  | nil => simp [SettingPath.concerns] at elsewhere
  | cons step rest ih =>
      cases place with
      | nil => cases step <;> simp [SettingPath.concerns] at elsewhere
      | cons other place =>
          cases step with
          | item position => simp [SettingPath.concerns] at elsewhere
          | member name =>
              rw [layAt_member plain, at?_assign]
              split
              next here =>
                subst here
                have inside : SettingPath.concerns rest place = false := by
                  simpa [SettingPath.concerns] using elsewhere
                rw [ih inside, at?_cons]
                cases old.members.lookup (SettingPath.entered name rest) with
                | some inner => rfl
                | none =>
                    cases place with
                    | nil => cases rest <;> simp [SettingPath.concerns] at inside
                    | cons => rfl
              next => rfl

/-- Two values of which the first is no more than the second, and neither is without the other:
they are the same, or both are lists, or both are tables and the second has all names of the
first.
-/
inductive Agree : Setting → Setting → Prop where
  | same {value : Setting} : Agree value value
  | lists {items items' : List Setting} : Agree (list items) (list items')
  | tables {members members' : SettingTable} (nonempty : members ≠ [])
      (included : members.map Prod.fst ⊆ members'.map Prod.fst)
      : Agree (table members) (table members')

/-- What agrees with a value, or nothing at all. -/
inductive Below : Setting → Setting → Prop where
  | nothing {value : Setting} : Below unset value
  | agree {value value' : Setting} (h : Agree value value') : Below value value'

theorem Below.included (h : Below old old')
    : old.members.map Prod.fst ⊆ old'.members.map Prod.fst := by
  cases h with
  | nothing => exact List.nil_subset _
  | agree h =>
      cases h with
      | same => exact List.Subset.refl _
      | lists => exact List.nil_subset _
      | tables _ included => exact included

theorem mem_map_fst_assign {name other : String} {base : SettingTable}
    : other ∈ (assign name value base).map Prod.fst ↔ other = name ∨ other ∈ base.map Prod.fst := by
  rw [← isSome_lookup_iff, lookup_assign, ← isSome_lookup_iff]
  split <;> simp_all

/-- Two values agree once the same has been laid into both. -/
theorem Below.layAt (h : Below old old') (plain : value.isPlain = true) (step : SettingStep)
    (rest : SettingPath)
    : Agree (layAt value (step :: rest) old) (layAt value (step :: rest) old') := by
  cases step with
  | member name =>
      rw [layAt_member plain, layAt_member plain]
      refine .tables ?_ fun other member => ?_
      · intro empty
        have present : SettingPath.entered name rest ∈ (assign (SettingPath.entered name rest)
            (Setting.layAt value rest
              ((old.members.lookup (SettingPath.entered name rest)).getD unset))
            old.members).map Prod.fst :=
          mem_map_fst_assign.mpr (.inl rfl)
        rw [empty] at present
        contradiction
      · rw [mem_map_fst_assign] at member ⊢
        exact member.imp_right fun known => h.included known
  | item position =>
      have isList (old : Setting)
          : ∃ items, Setting.layAt value (.item position :: rest) old = list items := by
        unfold Setting.layAt
        split <;> exact ⟨_, rfl⟩
      obtain ⟨items, shape⟩ := isList old
      obtain ⟨items', shape'⟩ := isList old'
      rw [shape, shape']
      exact .lists

theorem rel_agree_refl (found : Option Setting) : Option.Rel Agree found found := by
  cases found with
  | none => exact .none
  | some value => exact .some .same

theorem below_of_rel {found found' : Option Setting} (h : Option.Rel Agree found found')
    : Below (found.getD unset) (found'.getD unset) := by
  cases h with
  | some agree => exact .agree agree
  | none => exact .nothing

/-- What is at a place agrees once a value has been laid there, or into it, or around it, by
induction on the path.
-/
theorem rel_at?_layAt (plain : value.isPlain = true) (there : path.concerns place = true)
    (h : Below ((old.at? place).getD unset) ((old'.at? place).getD unset))
    : Option.Rel Agree ((layAt value path old).at? place) ((layAt value path old').at? place) := by
  induction path generalizing old old' place with
  | nil => exact rel_agree_refl _
  | cons step rest ih =>
      cases place with
      | nil => exact .some (h.layAt plain step rest)
      | cons other place =>
          cases step with
          | item position =>
              unfold layAt
              split <;> split <;> exact .none
          | member name =>
              simp only [SettingPath.concerns, Bool.and_eq_true, beq_iff_eq] at there
              obtain ⟨rfl, inside⟩ := there
              rw [layAt_member plain, layAt_member plain, at?_assign, at?_assign, if_pos rfl,
                if_pos rfl]
              rw [getD_at?_cons, getD_at?_cons] at h
              exact ih inside h

-----------------------------------------------------------------------------------------
-- Whole layers
-----------------------------------------------------------------------------------------

variable {base base' source : SettingTable} {name : String}

/-- A layer has a part in what is at a place. -/
def layerConcerns (source : SettingTable) (place : List String) : Bool :=
  source.any fun m => SettingPath.concerns (.ofText (lowerText m.1)) place

theorem layer_cons (base : SettingTable) (m : String × Setting) (source : SettingTable)
    : layer base (m :: source)
      = layer (layAt m.2 (.ofText (lowerText m.1)) (table base)).members source :=
  rfl

theorem at?_members (old : Setting) (name : String) (place : List String)
    : (table old.members).at? (name :: place) = old.at? (name :: place) :=
  rfl

/-- What a layer has no part in stays, by induction on its values. -/
theorem at?_layer_of_not_concerns (plain : ∀ m ∈ source, m.2.isPlain = true)
    (elsewhere : layerConcerns source (name :: place) = false)
    : (table (layer base source)).at? (name :: place) = (table base).at? (name :: place) := by
  induction source generalizing base with
  | nil => rfl
  | cons m source ih =>
      obtain ⟨first, plain⟩ := List.forall_mem_cons.mp plain
      rw [layerConcerns, List.any_cons, Bool.or_eq_false_iff] at elsewhere
      rw [layer_cons, ih plain elsewhere.2, at?_members,
        at?_layAt_of_not_concerns first elsewhere.1]

/-- What agrees at a place goes on to agree when the same is laid over both. -/
theorem rel_at?_layer (plain : ∀ m ∈ source, m.2.isPlain = true)
    (h : Option.Rel Agree ((table base).at? (name :: place)) ((table base').at? (name :: place)))
    : Option.Rel Agree ((table (layer base source)).at? (name :: place))
        ((table (layer base' source)).at? (name :: place)) := by
  induction source generalizing base base' with
  | nil => exact h
  | cons m source ih =>
      obtain ⟨first, plain⟩ := List.forall_mem_cons.mp plain
      rw [layer_cons, layer_cons]
      refine ih plain ?_
      rw [at?_members, at?_members]
      by_cases there : SettingPath.concerns (.ofText (lowerText m.1)) (name :: place) = true
      · exact rel_at?_layAt first there (below_of_rel h)
      · have elsewhere := Bool.eq_false_of_not_eq_true there
        rwa [at?_layAt_of_not_concerns first elsewhere, at?_layAt_of_not_concerns first elsewhere]

/-- What a layer has a part in is as if nothing were below, by induction on the values up to the
first that has a part in it.
-/
theorem rel_at?_layer_of_concerns (plain : ∀ m ∈ source, m.2.isPlain = true)
    (there : layerConcerns source (name :: place) = true)
    (nothing : (table base).at? (name :: place) = none)
    : Option.Rel Agree ((table (layer base source)).at? (name :: place))
        ((table (layer base' source)).at? (name :: place)) := by
  induction source generalizing base base' with
  | nil => contradiction
  | cons m source ih =>
      obtain ⟨first, plain⟩ := List.forall_mem_cons.mp plain
      rw [layer_cons, layer_cons]
      by_cases here : SettingPath.concerns (.ofText (lowerText m.1)) (name :: place) = true
      · refine rel_at?_layer plain ?_
        rw [at?_members, at?_members]
        refine rel_at?_layAt first here ?_
        rw [nothing]
        exact .nothing
      · have elsewhere := Bool.eq_false_of_not_eq_true here
        rw [layerConcerns, List.any_cons, elsewhere, Bool.false_or] at there
        refine ih plain there ?_
        rwa [at?_members, at?_layAt_of_not_concerns first elsewhere]

end Setting

end PerfLedger
