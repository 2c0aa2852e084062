import PerfLedger.Proofs.Settings.Layers
import PerfLedger.Settings.Basic

/-! Fields of settings, which are converted one by one from the members of a table: each is in the
end what the member of its name is converted to, and it stays built in without such a member.
-/

namespace PerfLedger

namespace Settings

-----------------------------------------------------------------------------------------
-- Conversions
-----------------------------------------------------------------------------------------

variable {α : Type}

/-- The value in force: what is given is converted, and what is not given is built in. -/
def effective (convert? : Setting → Option α) (builtIn : α) : Option Setting → Option α
  | none => some builtIn
  | some value => convert? value

/-- A conversion does not tell values that agree apart, as far as it can be used. -/
def Blind (convert? : Setting → Option α) : Prop :=
  ∀ (value value' : Setting) (converted : α), value.Agree value' → value.Tidy →
    convert? value' = some converted → convert? value = some converted

/-- A conversion of values that are no tables and no lists. -/
theorem Blind.of_plain {convert? : Setting → Option α}
    (noTable : ∀ members, convert? (.table members) = none)
    (noList : ∀ items, convert? (.list items) = none)
    : Blind convert? := by
  intro value value' converted agree _ read
  cases agree with
  | same => exact read
  | lists =>
      rw [noList] at read
      contradiction
  | tables =>
      rw [noTable] at read
      contradiction

theorem blind_toCount : Blind Setting.toCount? :=
  Blind.of_plain (fun _ => rfl) fun _ => rfl

theorem blind_toDouble : Blind Setting.toDouble? :=
  Blind.of_plain (fun _ => rfl) fun _ => rfl

theorem blind_optional {convert? : Setting → Option α}
    (noTable : ∀ members, convert? (.table members) = none)
    (noList : ∀ items, convert? (.list items) = none)
    : Blind (Setting.optional? convert?) :=
  Blind.of_plain (fun members => congrArg (Option.map some) (noTable members))
    fun items => congrArg (Option.map some) (noList items)

/-- The polarity of a table is that of its only name. -/
theorem blind_polarity : Blind Polarity.ofSetting? := by
  intro value value' converted agree tidy read
  cases agree with
  | same => exact read
  | lists => contradiction
  | @tables members members' nonempty included =>
      unfold Polarity.ofSetting? at read
      split at read
      next => contradiction
      next only _ shape =>
        cases shape
        obtain ⟨⟨first, inner⟩, rest, rfl⟩ := List.exists_cons_of_ne_nil nonempty
        obtain ⟨fresh, -⟩ := List.nodup_cons.mp tidy.different
        have named {name : String} (member : name ∈ ((first, inner) :: rest).map Prod.fst)
            : name = only :=
          List.mem_singleton.mp (included member)
        obtain rfl := named List.mem_cons_self
        have alone : rest = [] := by
          refine List.eq_nil_iff_forall_not_mem.mpr fun m member => fresh ?_
          have present := List.mem_map_of_mem (f := Prod.fst) member
          rwa [named (List.mem_cons_of_mem _ present)] at present
        rw [alone]
        exact read
      next => contradiction

-----------------------------------------------------------------------------------------
-- Fields
-----------------------------------------------------------------------------------------

/-- A field of what is put together from members one by one: members of its name set it to what
they are converted to, and no others change it.
-/
structure IsField {σ : Type} (put : σ → String × Setting → Option σ) (field : String)
    (convert? : Setting → Option α) (get : σ → α)
    : Prop where
  own : ∀ before after value, put before (field, value) = some after →
    convert? value = some (get after)
  other : ∀ before after m, m.1 ≠ field → put before m = some after → get after = get before

/-- A field is in the end what its member in a table says, by induction on the table. -/
theorem IsField.effective {σ : Type} {put : σ → String × Setting → Option σ} {field : String}
    {convert? : Setting → Option α} {get : σ → α} (h : IsField put field convert? get)
    {members : SettingTable} (different : (members.map Prod.fst).Nodup) {start final : σ}
    (folded : members.foldlM put start = some final)
    : effective convert? (get start) (members.lookup field) = some (get final) := by
  induction members generalizing start with
  | nil =>
      cases folded
      rfl
  | cons m members ih =>
      obtain ⟨fresh, different⟩ := List.nodup_cons.mp different
      rw [List.foldlM_cons] at folded
      obtain ⟨next, stepped, folded⟩ := Option.bind_eq_some_iff.mp folded
      rw [lookup_cons_eq_ite]
      split
      next here =>
        subst here
        have rest := ih different folded
        rw [lookup_eq_none fresh] at rest
        exact (h.own _ _ _ stepped).trans rest
      next elsewhere =>
        rw [← h.other _ _ _ (fun same => elsewhere same.symm) stepped]
        exact ih different folded

-----------------------------------------------------------------------------------------
-- Tables of polarities
-----------------------------------------------------------------------------------------

theorem lookup_insertSorted {α : Type} (name : String) (value : α) (list : List (String × α))
    (other : String)
    : (insertSorted name value list).lookup other
      = if other = name then some value else list.lookup other := by
  induction list with
  | nil => rw [insertSorted, lookup_cons_eq_ite]
  | cons first list ih =>
      rw [insertSorted]
      split
      · rw [lookup_cons_eq_ite]
      · split
        next same =>
          subst same
          rw [lookup_cons_eq_ite, lookup_cons_eq_ite]
          split <;> rfl
        next apart =>
          rw [lookup_cons_eq_ite, lookup_cons_eq_ite, ih]
          split
          next here => rw [if_neg (by rintro rfl; exact apart here)]
          next => rfl

/-- A polarity as it is found in a table of polarities. -/
def polarity? (value : Setting) : Option (Option Polarity) := (Polarity.ofSetting? value).map some

theorem blind_polarity? : Blind polarity? := by
  intro value value' converted agree tidy read
  obtain ⟨polarity, named, rfl⟩ := Option.map_eq_some_iff.mp read
  rw [polarity?, blind_polarity _ _ _ agree tidy named]
  rfl

/-- Each key of a table of polarities is a field of it. -/
theorem isField_key (key : String)
    : IsField
        (fun (table : PolarityTable) m =>
          (Polarity.ofSetting? m.2).map fun polarity => insertSorted m.1 polarity table)
        key polarity? (fun table => table.lookup key) where
  own _ _ _ added := by
    obtain ⟨polarity, named, rfl⟩ := Option.map_eq_some_iff.mp added
    rw [polarity?, named, lookup_insertSorted, if_pos rfl]
    rfl
  other _ _ _ apart added := by
    obtain ⟨polarity, -, rfl⟩ := Option.map_eq_some_iff.mp added
    rw [lookup_insertSorted, if_neg fun same => apart same.symm]

/-- Where all keys are small they are compared with the small letters of a name. -/
theorem lookup_of_small {table : PolarityTable} (small : ∀ entry ∈ table, IsSmall entry.1)
    (key : String)
    : Policy.lookup table key = table.lookup key.toLower := by
  have ignoring : (table.find? fun entry => entry.1.toLower == key.toLower).map Prod.snd
      = table.lookup key.toLower := by
    induction table with
    | nil => rfl
    | cons entry table ih =>
        obtain ⟨first, small⟩ := List.forall_mem_cons.mp small
        rw [lookup_cons_eq_ite, List.find?_cons, first.toLower_eq]
        by_cases same : entry.1 = key.toLower
        · simp [same]
        · rw [beq_eq_false_iff_ne.mpr same, if_neg fun here => same here.symm]
          exact ih small
  unfold Policy.lookup
  split
  next polarity found => rw [← found, (small _ (mem_of_lookup found)).toLower_eq]
  next => exact ignoring

theorem at?_singleton (value : Setting) (name : String)
    : value.at? [name] = value.members.lookup name := by
  rw [Setting.at?_cons]
  cases value.members.lookup name <;> rfl

theorem at?_append (value : Setting) (left right : List String)
    : value.at? (left ++ right) = (value.at? left).bind fun inner => inner.at? right := by
  induction left generalizing value with
  | nil => rfl
  | cons name left ih =>
      rw [List.cons_append, Setting.at?_cons, Setting.at?_cons]
      cases value.members.lookup name with
      | none => rfl
      | some inner => exact ih inner

/-- The polarities of the keys in a tidy setting. Nothing that is built in is left in a table that
is given.
-/
theorem effective_polarities {value : Setting} (tidy : value.Tidy) {place : List String}
    {builtIn table : PolarityTable}
    (read : effective PolarityTable.ofSetting? builtIn (value.at? place) = some table)
    (key : String)
    : effective polarity? (if (value.at? place).isSome then none else Policy.lookup builtIn key)
        (value.at? (place ++ [key.toLower])) = some (Policy.lookup table key) := by
  rw [at?_append]
  cases found : value.at? place with
  | none =>
      rw [found] at read
      cases read
      rfl
  | some inner =>
      rw [found] at read
      have tidy := tidy.at? found
      obtain ⟨members, rfl⟩ : ∃ members, inner = .table members := by
        cases inner <;> first | exact ⟨_, rfl⟩ | contradiction
      have polarities (key : String) := (isField_key key).effective tidy.different read
      have small : ∀ entry ∈ table, IsSmall entry.1 := by
        intro entry member
        have known := polarities entry.1
        have present := isSome_lookup_iff.mpr (List.mem_map_of_mem member)
        cases origin : (Setting.table members).members.lookup entry.1 with
        | none =>
            rw [origin] at known
            rw [← Option.some.inj known] at present
            contradiction
        | some inner => exact tidy.small _ (mem_of_lookup origin)
      rw [lookup_of_small small, Option.bind_some, at?_singleton]
      exact polarities key.toLower

-----------------------------------------------------------------------------------------
-- Policies and settings
-----------------------------------------------------------------------------------------

/-- Of the fields of a policy only the one that is set changes. -/
theorem policy_setField?_keeps (p next : Policy) (m : String × Setting)
    (set : p.setField? m.1 m.2 = some next)
    : (m.1 ≠ "window_size" → next.windowSize = p.windowSize)
      ∧ (m.1 ≠ "threshold_ratio" → next.thresholdRatio = p.thresholdRatio)
      ∧ (m.1 ≠ "min_samples" → next.minSamples = p.minSamples)
      ∧ (m.1 ≠ "fail_ratio" → next.failRatio = p.failRatio)
      ∧ (m.1 ≠ "polarity_overrides" → next.overrides = p.overrides)
      ∧ (m.1 ≠ "unit_polarity" → next.unitPolarity = p.unitPolarity)
      ∧ (m.1 ≠ "tool_polarity" → next.toolPolarity = p.toolPolarity) := by
  unfold Policy.setField? at set
  split at set
  case h_8 =>
    cases set
    simp
  all_goals
    obtain ⟨_, -, rfl⟩ := Option.map_eq_some_iff.mp set
    simp [*]

theorem setField?_keeps (s next : Settings) (m : String × Setting)
    (set : s.setField? m.1 m.2 = some next)
    : (m.1 ≠ "data_file" → next.dataFile = s.dataFile)
      ∧ (m.1 ≠ "repo_url" → next.repoUrl = s.repoUrl)
      ∧ (m.1 ≠ "detector" → next.policy = s.policy) := by
  unfold Settings.setField? at set
  split at set
  case h_4 =>
    cases set
    simp
  all_goals
    obtain ⟨_, -, rfl⟩ := Option.map_eq_some_iff.mp set
    simp [*]

/-- A converted value is what the field is set to. -/
theorem map_eq_some_get {σ : Type} {convert? : Setting → Option α} {value : Setting} {put : α → σ}
    {get : σ → α} (kept : ∀ converted, get (put converted) = converted) {next : σ}
    (set : (convert? value).map put = some next)
    : convert? value = some (get next) := by
  obtain ⟨converted, read, rfl⟩ := Option.map_eq_some_iff.mp set
  rw [read, kept]

/-- The field of a policy that is set is what the value is converted to. -/
theorem policy_setField?_sets (p next : Policy) (value : Setting)
    : (p.setField? "window_size" value = some next → value.toCount? = some next.windowSize)
      ∧ (p.setField? "threshold_ratio" value = some next →
          value.toDouble? = some next.thresholdRatio)
      ∧ (p.setField? "min_samples" value = some next → value.toCount? = some next.minSamples)
      ∧ (p.setField? "fail_ratio" value = some next →
          value.optional? Setting.toDouble? = some next.failRatio)
      ∧ (p.setField? "polarity_overrides" value = some next →
          PolarityTable.ofSetting? value = some next.overrides)
      ∧ (p.setField? "unit_polarity" value = some next →
          PolarityTable.ofSetting? value = some next.unitPolarity)
      ∧ (p.setField? "tool_polarity" value = some next →
          PolarityTable.ofSetting? value = some next.toolPolarity) := by
  refine ⟨?_, ?_, ?_, ?_, ?_, ?_, ?_⟩
  all_goals
    intro set
    simp only [Policy.setField?] at set
    exact map_eq_some_get (fun _ => rfl) set

theorem setField?_sets (s next : Settings) (value : Setting)
    : (s.setField? "data_file" value = some next →
          value.optional? Setting.toText? = some next.dataFile)
      ∧ (s.setField? "repo_url" value = some next →
          value.optional? Setting.toText? = some next.repoUrl)
      ∧ (s.setField? "detector" value = some next →
          Policy.ofSetting? value = some next.policy) := by
  refine ⟨?_, ?_, ?_⟩
  all_goals
    intro set
    simp only [setField?] at set
    exact map_eq_some_get (fun _ => rfl) set

/-- A policy with one more member of its table. -/
def putPolicy (p : Policy) (m : String × Setting) : Option Policy := p.setField? m.1 m.2

/-- Settings with one more member of their table. -/
def put (s : Settings) (m : String × Setting) : Option Settings := s.setField? m.1 m.2

theorem isField_windowSize
    : IsField putPolicy "window_size" Setting.toCount? Policy.windowSize where
  own p next value := (policy_setField?_sets p next value).1
  other p next m apart set := (policy_setField?_keeps p next m set).1 apart

theorem isField_thresholdRatio
    : IsField putPolicy "threshold_ratio" Setting.toDouble? Policy.thresholdRatio where
  own p next value := (policy_setField?_sets p next value).2.1
  other p next m apart set := (policy_setField?_keeps p next m set).2.1 apart

theorem isField_minSamples
    : IsField putPolicy "min_samples" Setting.toCount? Policy.minSamples where
  own p next value := (policy_setField?_sets p next value).2.2.1
  other p next m apart set := (policy_setField?_keeps p next m set).2.2.1 apart

theorem isField_failRatio
    : IsField putPolicy "fail_ratio" (Setting.optional? Setting.toDouble?) Policy.failRatio where
  own p next value := (policy_setField?_sets p next value).2.2.2.1
  other p next m apart set := (policy_setField?_keeps p next m set).2.2.2.1 apart

theorem isField_overrides
    : IsField putPolicy "polarity_overrides" PolarityTable.ofSetting? Policy.overrides where
  own p next value := (policy_setField?_sets p next value).2.2.2.2.1
  other p next m apart set := (policy_setField?_keeps p next m set).2.2.2.2.1 apart

theorem isField_unitPolarity
    : IsField putPolicy "unit_polarity" PolarityTable.ofSetting? Policy.unitPolarity where
  own p next value := (policy_setField?_sets p next value).2.2.2.2.2.1
  other p next m apart set := (policy_setField?_keeps p next m set).2.2.2.2.2.1 apart

theorem isField_toolPolarity
    : IsField putPolicy "tool_polarity" PolarityTable.ofSetting? Policy.toolPolarity where
  own p next value := (policy_setField?_sets p next value).2.2.2.2.2.2
  other p next m apart set := (policy_setField?_keeps p next m set).2.2.2.2.2.2 apart

theorem isField_dataFile
    : IsField put "data_file" (Setting.optional? Setting.toText?) Settings.dataFile where
  own s next value := (setField?_sets s next value).1
  other s next m apart set := (setField?_keeps s next m set).1 apart

theorem isField_repoUrl
    : IsField put "repo_url" (Setting.optional? Setting.toText?) Settings.repoUrl where
  own s next value := (setField?_sets s next value).2.1
  other s next m apart set := (setField?_keeps s next m set).2.1 apart

theorem isField_policy : IsField put "detector" Policy.ofSetting? Settings.policy where
  own s next value := (setField?_sets s next value).2.2
  other s next m apart set := (setField?_keeps s next m set).2.2 apart

/-- A field of the policy is what its member in the table of the policy says. -/
theorem effective_policy {value : Setting} (tidy : value.Tidy) {policy : Policy}
    (read : effective Policy.ofSetting? .standard (value.at? ["detector"]) = some policy)
    (noList : ∀ items, value.at? ["detector"] ≠ some (.list items)) {field : String}
    {convert? : Setting → Option α} {get : Policy → α} (h : IsField putPolicy field convert? get)
    : effective convert? (get .standard) (value.at? ["detector", field]) = some (get policy) := by
  rw [← List.singleton_append, at?_append]
  cases found : value.at? ["detector"] with
  | none =>
      rw [found] at read
      cases read
      rfl
  | some inner =>
      rw [found] at read noList
      obtain ⟨members, rfl⟩ : ∃ members, inner = .table members := by
        cases inner with
        | table members => exact ⟨members, rfl⟩
        | list items => exact absurd rfl (noList items)
        | _ => contradiction
      rw [Option.bind_some, at?_singleton]
      exact h.effective (tidy.at? found).different read

/-- Paired with items, different names are different still. -/
theorem nodup_map_fst_zip {names : List String} (different : names.Nodup) (items : List Setting)
    : ((names.zip items).map Prod.fst).Nodup := by
  induction names generalizing items with
  | nil => exact List.nodup_nil
  | cons name names ih =>
      cases items with
      | nil => exact List.nodup_nil
      | cons item items =>
          obtain ⟨fresh, different⟩ := List.nodup_cons.mp different
          refine List.nodup_cons.mpr ⟨fun again => fresh ?_, ih different items⟩
          obtain ⟨pair, member, rfl⟩ := List.mem_map.mp again
          exact (List.of_mem_zip member).1

/-- The item that is paired with a name is the one in the place of the name. -/
theorem lookup_zip {names : List String} (different : names.Nodup) (items : List Setting)
    {position : Nat} {name : String} (here : names[position]? = some name)
    : (names.zip items).lookup name = items[position]? := by
  induction names generalizing items position with
  | nil => contradiction
  | cons first names ih =>
      obtain ⟨fresh, different⟩ := List.nodup_cons.mp different
      cases items with
      | nil => rfl
      | cons item items =>
          rw [List.zip_cons_cons, lookup_cons_eq_ite]
          cases position with
          | zero =>
              obtain rfl := Option.some.inj here
              exact if_pos rfl
          | succ position =>
              have apart : name ≠ first := by
                rintro rfl
                exact fresh (List.mem_of_getElem? here)
              rw [if_neg apart]
              exact ih different items here

/-- A field of a policy that is given as a list is what the item in its place says. -/
theorem effective_listed {items : List Setting} {policy : Policy}
    (read : Policy.ofSetting? (.list items) = some policy) (position : Nat) {field : String}
    {convert? : Setting → Option α} {get : Policy → α} (h : IsField putPolicy field convert? get)
    (here : Policy.shape.fields[position]? = some field)
    : effective convert? (get .standard) items[position]? = some (get policy) := by
  have different : Policy.shape.fields.Nodup := by decide
  rw [← lookup_zip different items here]
  exact h.effective (nodup_map_fst_zip different items) read

end Settings

end PerfLedger
