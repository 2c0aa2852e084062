import PerfLedger.Disk.FileTree
import PerfLedger.Proofs.Results
import PerfLedger.Proofs.Settings.Fields

/-! Where each setting comes from: from the environment where it has a part in it, else from the
configuration file, and else it is built in. The conventions of the tools are the exception. They
are built in as a whole, so that any table of conventions in a source takes the place of them all.
-/

namespace PerfLedger

-----------------------------------------------------------------------------------------
-- Given values
-----------------------------------------------------------------------------------------

theorem Environment.isPlain_settingOf (text : String) : (settingOf text).isPlain = true := by
  unfold settingOf
  dsimp only
  split
  · rfl
  · split
    · rfl
    · split <;> rfl

theorem Environment.isPlain_settings (environment : Environment)
    : ∀ m ∈ environment.settings, m.2.isPlain = true := by
  intro m member
  obtain ⟨⟨name, text⟩, -, read⟩ := List.mem_filterMap.mp member
  obtain ⟨_, -, rfl⟩ := Option.map_eq_some_iff.mp read
  exact isPlain_settingOf text

namespace Settings

/-- What the sources give for a place: the environment by itself if a variable has a part in the
place, and else the file by itself.
-/
def given? (file : SettingTable) (environment : Environment) (place : List String)
    : Option Setting :=
  if Setting.layerConcerns environment.settings place then
    (Setting.table (Setting.layer [] environment.settings)).at? place
  else
    (Setting.table (Setting.layer [] file)).at? place

/-- The table of both sources. -/
def merged (file : SettingTable) (environment : Environment) : Setting :=
  .table (Setting.layer (Setting.layer [] file) environment.settings)

variable {file : SettingTable} {environment : Environment} {name : String} {place : List String}

theorem tidy_source (source : SettingTable) : (Setting.table (Setting.layer [] source)).Tidy :=
  Setting.tidy_layer (.of_members_eq_nil rfl) source

theorem tidy_merged (file : SettingTable) (environment : Environment)
    : (merged file environment).Tidy :=
  Setting.tidy_layer (tidy_source file) environment.settings

theorem tidy_given {value : Setting} (given : given? file environment place = some value)
    : value.Tidy := by
  unfold given? at given
  split at given
  · exact (tidy_source _).at? given
  · exact (tidy_source _).at? given

/-- What both sources come to at a place is what is given for it. -/
theorem rel_given (file : SettingTable) (environment : Environment) (name : String)
    (place : List String)
    : Option.Rel Setting.Agree (given? file environment (name :: place))
        ((merged file environment).at? (name :: place)) := by
  have plain := environment.isPlain_settings
  unfold given?
  split
  next there => exact Setting.rel_at?_layer_of_concerns plain there rfl
  next elsewhere =>
    rw [merged, Setting.at?_layer_of_not_concerns plain (Bool.eq_false_of_not_eq_true elsewhere)]
    exact Setting.rel_agree_refl _

variable {α : Type}

/-- What is converted from both sources is converted from what is given. -/
theorem effective_given {convert? : Setting → Option α} (blind : Blind convert?)
    {builtIn value : α}
    (read : effective convert? builtIn ((merged file environment).at? (name :: place)) = some value)
    : effective convert? builtIn (given? file environment (name :: place)) = some value := by
  have rel := rel_given file environment name place
  generalize found : given? file environment (name :: place) = given at rel ⊢
  generalize (merged file environment).at? (name :: place) = both at rel read
  cases rel with
  | none => exact read
  | some agree => exact blind _ _ _ agree (tidy_given found) read

-----------------------------------------------------------------------------------------
-- Settings in force
-----------------------------------------------------------------------------------------

/-- The policy in force, place by place: what the environment gives, else what the file gives, else
what is built in. Keys of polarities are compared in small letters of ASCII. A convention of a tool
is built in only as long as no source gives a table of conventions, be it empty.
-/
structure LayeredPolicy (file : SettingTable) (environment : Environment) (p : Policy)
    : Prop where
  windowSize : effective Setting.toCount? Policy.standard.windowSize
    (given? file environment ["detector", "window_size"]) = some p.windowSize
  thresholdRatio : effective Setting.toDouble? Policy.standard.thresholdRatio
    (given? file environment ["detector", "threshold_ratio"]) = some p.thresholdRatio
  minSamples : effective Setting.toCount? Policy.standard.minSamples
    (given? file environment ["detector", "min_samples"]) = some p.minSamples
  failRatio : effective (Setting.optional? Setting.toDouble?) Policy.standard.failRatio
    (given? file environment ["detector", "fail_ratio"]) = some p.failRatio
  overrides (key : String) : effective polarity? none
    (given? file environment ["detector", "polarity_overrides", key.toLower])
      = some (Policy.lookup p.overrides key)
  unitPolarity (key : String) : effective polarity? none
    (given? file environment ["detector", "unit_polarity", key.toLower])
      = some (Policy.lookup p.unitPolarity key)
  toolPolarity (key : String) : effective polarity?
    (if (given? file environment ["detector", "tool_polarity"]).isSome then none
      else Policy.lookup Policy.standard.toolPolarity key)
    (given? file environment ["detector", "tool_polarity", key.toLower])
      = some (Policy.lookup p.toolPolarity key)

/-- The policy that is given as a list of its fields: what the list ends before is built in. -/
structure ListedPolicy (items : List Setting) (p : Policy) : Prop where
  windowSize : effective Setting.toCount? Policy.standard.windowSize items[0]? = some p.windowSize
  thresholdRatio : effective Setting.toDouble? Policy.standard.thresholdRatio items[1]?
    = some p.thresholdRatio
  minSamples : effective Setting.toCount? Policy.standard.minSamples items[2]? = some p.minSamples
  failRatio : effective (Setting.optional? Setting.toDouble?) Policy.standard.failRatio items[3]?
    = some p.failRatio
  overrides : effective PolarityTable.ofSetting? Policy.standard.overrides items[4]?
    = some p.overrides
  unitPolarity : effective PolarityTable.ofSetting? Policy.standard.unitPolarity items[5]?
    = some p.unitPolarity
  toolPolarity : effective PolarityTable.ofSetting? Policy.standard.toolPolarity items[6]?
    = some p.toolPolarity

/-- The settings in force: the policy is layered place by place as the other settings are, unless
the sources come to a list of its fields.
-/
structure Layered (file : SettingTable) (environment : Environment) (s : Settings) : Prop where
  dataFile : effective (Setting.optional? Setting.toText?) standard.dataFile
    (given? file environment ["data_file"]) = some s.dataFile
  repoUrl : effective (Setting.optional? Setting.toText?) standard.repoUrl
    (given? file environment ["repo_url"]) = some s.repoUrl
  policy (noList : ∀ items, (merged file environment).at? ["detector"] ≠ some (.list items))
    : LayeredPolicy file environment s.policy
  listed {items : List Setting}
    (given : (merged file environment).at? ["detector"] = some (.list items))
    : ListedPolicy items s.policy

theorem isSome_given (file : SettingTable) (environment : Environment) (name : String)
    (place : List String)
    : (given? file environment (name :: place)).isSome
      = ((merged file environment).at? (name :: place)).isSome := by
  have rel := rel_given file environment name place
  generalize given? file environment (name :: place) = given at rel ⊢
  generalize (merged file environment).at? (name :: place) = both at rel ⊢
  cases rel <;> rfl

variable {s : Settings}

/-- Settings that are accepted come from both sources. -/
theorem ofTable_of_ofSources (accepted : ofSources file environment = .ok s)
    : ofTable? (merged file environment).members = some s := by
  unfold ofSources at accepted
  split at accepted
  · contradiction
  next read =>
    split at accepted
    · cases accepted
      exact read
    · contradiction

/-- The policy that is read from both sources is layered, unless it is given as a list. -/
theorem layeredPolicy_of_effective {p : Policy}
    (read : effective Policy.ofSetting? .standard ((merged file environment).at? ["detector"])
      = some p)
    (noList : ∀ items, (merged file environment).at? ["detector"] ≠ some (.list items))
    : LayeredPolicy file environment p := by
  have tidy := tidy_merged file environment
  have member {α : Type} {field : String} {convert? : Setting → Option α} {get : Policy → α}
      (h : IsField putPolicy field convert? get)
      : effective convert? (get .standard) ((merged file environment).at? ["detector", field])
        = some (get p) :=
    effective_policy tidy read noList h
  have polarities {field : String} {get : Policy → PolarityTable}
      (h : IsField putPolicy field PolarityTable.ofSetting? get) (key : String)
      : effective polarity?
          (if (given? file environment ["detector", field]).isSome then none
            else Policy.lookup (get .standard) key)
          (given? file environment ["detector", field, key.toLower])
        = some (Policy.lookup (get p) key) := by
    rw [isSome_given]
    exact effective_given blind_polarity? (effective_polarities tidy (member h) key)
  have seedless {given builtIn : Option Setting} {seed found : Option Polarity}
      (read : effective polarity? (if builtIn.isSome then none else seed) given = some found)
      (empty : seed = none)
      : effective polarity? none given = some found := by
    rwa [empty, ite_self] at read
  exact {
    windowSize := effective_given blind_toCount (member isField_windowSize)
    thresholdRatio := effective_given blind_toDouble (member isField_thresholdRatio)
    minSamples := effective_given blind_toCount (member isField_minSamples)
    failRatio :=
      effective_given (blind_optional (fun _ => rfl) fun _ => rfl) (member isField_failRatio)
    overrides := fun key => seedless (polarities isField_overrides key) rfl
    unitPolarity := fun key => seedless (polarities isField_unitPolarity key) rfl
    toolPolarity := polarities isField_toolPolarity
  }

theorem listedPolicy_of_ofSetting? {items : List Setting} {p : Policy}
    (read : Policy.ofSetting? (.list items) = some p)
    : ListedPolicy items p where
  windowSize := effective_listed read 0 isField_windowSize rfl
  thresholdRatio := effective_listed read 1 isField_thresholdRatio rfl
  minSamples := effective_listed read 2 isField_minSamples rfl
  failRatio := effective_listed read 3 isField_failRatio rfl
  overrides := effective_listed read 4 isField_overrides rfl
  unitPolarity := effective_listed read 5 isField_unitPolarity rfl
  toolPolarity := effective_listed read 6 isField_toolPolarity rfl

/-- Accepted settings are in force as told. -/
theorem layered_of_ofSources (accepted : ofSources file environment = .ok s)
    : Layered file environment s := by
  have setting {α : Type} {field : String} {convert? : Setting → Option α} {get : Settings → α}
      (h : IsField put field convert? get)
      : effective convert? (get standard) ((merged file environment).at? [field])
        = some (get s) := by
    rw [at?_singleton]
    exact h.effective (tidy_merged file environment).different (ofTable_of_ofSources accepted)
  have blindText : Blind (Setting.optional? Setting.toText?) :=
    blind_optional (fun _ => rfl) fun _ => rfl
  have read := setting isField_policy
  exact {
    dataFile := effective_given blindText (setting isField_dataFile)
    repoUrl := effective_given blindText (setting isField_repoUrl)
    policy := layeredPolicy_of_effective read
    listed := fun given => by
      rw [given] at read
      exact listedPolicy_of_ofSetting? read
  }

-----------------------------------------------------------------------------------------
-- Loaded settings
-----------------------------------------------------------------------------------------

/-- Settings that are loaded come from the extended environment and the configuration file. -/
theorem load_eq_ok {σ : Type} [Disk (StateM σ)] {named : Option String} {disk : σ}
    (loaded : (load (m := StateM σ) named environment disk).1 = .ok s)
    : ∃ extended after file last,
        extendEnvironment (m := StateM σ) environment disk = (.ok extended, after)
        ∧ readFile (m := StateM σ) named after = (.ok file, last)
        ∧ ofSources file extended = .ok s := by
  unfold load at loaded
  rw [bind_apply] at loaded
  split at loaded
  next extended after first =>
    rw [bind_apply] at loaded
    split at loaded
    next file last second =>
      refine ⟨extended, after, file, last, first, second, ?_⟩
      cases outcome : ofSources file extended with
      | ok result =>
          rw [outcome] at loaded
          exact congrArg Except.ok (Except.ok.inj loaded)
      | error cause =>
          rw [outcome] at loaded
          contradiction
    next => contradiction
  next => contradiction

/-- Whenever settings can be loaded, from any disk, they are in force as told: from the environment
extended by the file of variables, from the configuration file, and as built in.
-/
theorem load_layered {σ : Type} [Disk (StateM σ)] {named : Option String}
    {environment : Environment} {disk : σ} {s : Settings}
    (loaded : (load (m := StateM σ) named environment disk).1 = .ok s)
    : ∃ extended after file last,
        extendEnvironment (m := StateM σ) environment disk = (.ok extended, after)
        ∧ readFile (m := StateM σ) named after = (.ok file, last)
        ∧ Layered file extended s := by
  obtain ⟨extended, after, file, last, first, second, accepted⟩ := load_eq_ok loaded
  exact ⟨extended, after, file, last, first, second, layered_of_ofSources accepted⟩

/-- A configuration file that sets the convention of one tool. -/
def conventionText : String := "[detector.tool_polarity]\nmytool = \"higher\"\n"

/-- A tree with nothing but that configuration file. -/
def conventionTree : FileTree :=
  ⟨[([defaultFile], .file 0o644 conventionText.toUTF8)]⟩

/-- A variable that sets a field of the policy. -/
def windowVariable : Environment := [("BENCHWATCH_DETECTOR__WINDOW_SIZE", "8")]

theorem exists_of_map_toOption {ε β : Type} {result : Except ε α} {look : α → β} {seen : β}
    (succeeded : result.toOption.map look = some seen)
    : ∃ value, result = .ok value ∧ look value = seen := by
  cases result with
  | ok value => exact ⟨value, rfl, Option.some.inj succeeded⟩
  | error cause => contradiction

theorem load_layered_convention
    : ∃ s file,
        (load (m := FileTree.Run) none windowVariable conventionTree).1 = .ok s
        ∧ (readFile (m := FileTree.Run) none conventionTree).1 = .ok file
        ∧ Layered file windowVariable s
        ∧ s.policy.windowSize = 8 := by
  have succeeded
      : (load (m := FileTree.Run) none windowVariable conventionTree).1.toOption.map
          (fun s => s.policy.windowSize) = some 8 := by
    decide +kernel
  obtain ⟨s, loaded, size⟩ := exists_of_map_toOption succeeded
  obtain ⟨extended, after, file, last, first, second, layered⟩ := load_layered loaded
  have alone
      : extendEnvironment (m := FileTree.Run) windowVariable conventionTree
        = (.ok windowVariable, conventionTree) := by
    unfold extendEnvironment
    rw [bind_apply]
    rfl
  obtain ⟨same, rfl⟩ := Prod.mk.inj (alone.symm.trans first)
  obtain rfl := Except.ok.inj same
  exact ⟨s, file, loaded, congrArg Prod.fst second, layered, size⟩

/-- That file by itself does away with the conventions that are built in, which it does not set. -/
theorem convention_replaces
    : ∃ s file,
        (load (m := FileTree.Run) none [] conventionTree).1 = .ok s
        ∧ (readFile (m := FileTree.Run) none conventionTree).1 = .ok file
        ∧ (given? file [] ["detector", "tool_polarity", "custombiggerisbetter"]).isNone = true
        ∧ Policy.standard.polarityOf? "customBiggerIsBetter" "b" "points" = some .higherIsBetter
        ∧ s.policy.polarityOf? "customBiggerIsBetter" "b" "points" = none := by
  have succeeded
      : (load (m := FileTree.Run) none [] conventionTree).1.toOption.map
          (fun s => s.policy.polarityOf? "customBiggerIsBetter" "b" "points") = some none := by
    decide +kernel
  have found
      : (readFile (m := FileTree.Run) none conventionTree).1.toOption.map
          (fun file =>
            (given? file [] ["detector", "tool_polarity", "custombiggerisbetter"]).isNone)
        = some true := by
    decide +kernel
  have seeded
      : Policy.standard.polarityOf? "customBiggerIsBetter" "b" "points" = some .higherIsBetter := by
    decide +kernel
  obtain ⟨s, loaded, unknown⟩ := exists_of_map_toOption succeeded
  obtain ⟨file, read, unset⟩ := exists_of_map_toOption found
  exact ⟨s, file, loaded, read, unset, seeded, unknown⟩

end Settings

end PerfLedger
