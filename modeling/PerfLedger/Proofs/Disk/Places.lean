import PerfLedger.Proofs.Disk.Directories
import PerfLedger.Proofs.Disk.Nodes
import PerfLedger.Proofs.Results

/-! Paths without steps back lead to one place in every tree. What is found at the end of such
a path depends on that place alone, and making the directory of the path keeps it as it is.
-/

namespace PerfLedger.FileTree

variable {t t' : FileTree} {here place : Place} {path : String}

-----------------------------------------------------------------------------------------
-- Following steps
-----------------------------------------------------------------------------------------

/-- No step leads back. -/
def Forward (steps : List String) : Prop := ".." ∉ steps

instance : DecidablePred Forward := fun steps => inferInstanceAs (Decidable (".." ∉ steps))

theorem move_forward {step : String} (forward : step ≠ "..") (here : Place)
    : move here step = here ++ [step] :=
  if_neg forward

/-- The places that are passed on the way from a place are all directories. -/
def OpenWay (t : FileTree) (here : Place) (steps : List String) : Prop :=
  ∀ before after, before ++ after = steps → after ≠ [] →
    t.node? (here ++ before) = some .directory

theorem openWay_nil (t : FileTree) (here : Place) : OpenWay t here [] := by
  intro before after whole ahead
  exact absurd (List.append_eq_nil_iff.mp whole).2 ahead

/-- A way is open when its start is a directory and the rest is open. -/
theorem openWay_cons_iff {step : String} {rest : List String}
    : OpenWay t here (step :: rest)
      ↔ t.node? here = some .directory ∧ OpenWay t (here ++ [step]) rest := by
  constructor
  · intro h
    refine ⟨by simpa using h [] (step :: rest) rfl (List.cons_ne_nil _ _), ?_⟩
    intro before after whole ahead
    simpa using h (step :: before) after (by simp [whole]) ahead
  · intro given before after whole ahead
    obtain ⟨start, rest⟩ := given
    cases before with
    | nil => simpa using start
    | cons name before =>
        rw [List.cons_append, List.cons.injEq] at whole
        obtain ⟨rfl, whole⟩ := whole
        simpa using rest before after whole ahead

/-- Steps forward can be followed exactly on an open way, by names that are not too long. -/
theorem follow_eq_ok_iff {steps : List String} (forward : Forward steps)
    : t.follow here steps = .ok place
      ↔ place = here ++ steps ∧ (∀ name ∈ steps, Path.isShortName name = true)
        ∧ OpenWay t here steps := by
  induction steps generalizing here with
  | nil =>
      rw [follow, List.append_nil]
      refine ⟨fun h => ⟨(Except.ok.inj h).symm, List.forall_mem_nil _, openWay_nil t here⟩, ?_⟩
      intro given
      obtain ⟨rfl, _⟩ := given
      rfl
  | cons step rest ih =>
      rw [Forward, List.mem_cons, not_or] at forward
      obtain ⟨first, forward⟩ := forward
      have ahead : (here.isEmpty && step == "..") = false := by
        simp [Ne.symm first]
      rw [follow, openWay_cons_iff, List.forall_mem_cons]
      cases found : t.node? here with
      | none => simp
      | some node =>
          cases node with
          | file mode bytes => simp
          | directory =>
              simp only [ahead, Bool.false_eq_true, ↓reduceIte]
              split
              next short =>
                rw [move_forward (Ne.symm first), ih forward]
                simp [short]
              next long => simp [long]

/-- In a well-formed tree the places on the way to a node are directories. -/
theorem WellFormed.directory_above (h : t.WellFormed) {rest : List String} (ahead : rest ≠ [])
    (found : (t.node? (place ++ rest)).isSome = true)
    : t.node? place = some .directory := by
  induction rest using List.reverseRecOn with
  | nil => contradiction
  | append_singleton rest name ih =>
      rw [← List.append_assoc] at found
      have parent := h _ _ found
      cases rest with
      | nil => simpa using parent
      | cons step rest => exact ih (List.cons_ne_nil _ _) (by simp [parent])

/-- In a well-formed tree the way to a node is open. -/
theorem WellFormed.openWay (h : t.WellFormed) {steps : List String}
    (found : (t.node? (here ++ steps)).isSome = true)
    : OpenWay t here steps := by
  intro before after same ahead
  subst same
  rw [← List.append_assoc] at found
  exact h.directory_above ahead found

-----------------------------------------------------------------------------------------
-- What is at the end of a path
-----------------------------------------------------------------------------------------

/-- The place that a path leads to if it leads anywhere, whatever is in the tree. -/
def placeOf? (path : String) : Option Place :=
  if Path.isNamable path && Path.isShort path && !path.isEmpty then
    match stepsFromHome? path with
    | some steps => if steps.all Path.isShortName then some steps else none
    | none => (above (Path.steps path)).toOption
  else none

/-- A path that demands a directory does not lead to a file. -/
def mayEndIn (path : String) : FileNode → Bool
  | .file .. => !Path.demandsDirectory path
  | .directory => true

/-- What is at the end of a path, if anything is. -/
def entryAt (t : FileTree) (path : String) : Option FileNode := (t.find path).toOption

theorem isPrefixOf?_eq_some_iff {start whole rest : List String}
    : start.isPrefixOf? whole = some rest ↔ whole = start ++ rest := by
  induction start generalizing whole with
  | nil => simp [List.isPrefixOf?, eq_comm]
  | cons name start ih =>
      cases whole with
      | nil => simp [List.isPrefixOf?]
      | cons other whole =>
          by_cases same : name = other
          · simp [List.isPrefixOf?, same, ih]
          · simp [List.isPrefixOf?, same, Ne.symm same]

/-- Steps from the working directory are steps of the path. -/
theorem forward_stepsFromHome {steps : List String} (forward : Forward (Path.steps path))
    (inside : stepsFromHome? path = some steps)
    : Forward steps := by
  unfold stepsFromHome? at inside
  split at inside
  · rw [isPrefixOf?_eq_some_iff.mp inside] at forward
    exact fun back => forward (List.mem_append_right _ back)
  · exact Option.some.inj inside ▸ forward

theorem above_eq_ok {steps : List String} (h : above steps = .ok place) : place = [] := by
  unfold above at h
  split at h
  next => exact (Except.ok.inj h).symm
  next => contradiction

/-- A path without steps back leads to its place exactly when the way there is open. -/
theorem locate_eq_ok_iff (forward : Forward (Path.steps path))
    : t.locate path = .ok place ↔ placeOf? path = some place ∧ OpenWay t [] place := by
  unfold locate placeOf?
  by_cases namable : Path.isNamable path = true
  case neg => simp [namable]
  by_cases short : Path.isShort path = true
  case neg => simp [namable, short]
  by_cases empty : path.isEmpty = true
  case pos => simp [namable, short, empty]
  simp only [namable, short, empty, Bool.not_true, Bool.false_eq_true, ↓reduceIte,
    Bool.not_false, Bool.and_self]
  cases inside : stepsFromHome? path with
  | some steps =>
      simp only
      rw [follow_eq_ok_iff (forward_stepsFromHome forward inside), List.nil_append]
      rw [← List.all_eq_true]
      by_cases names : steps.all Path.isShortName = true
      · simp only [names, ↓reduceIte, Option.some.injEq, true_and]
        constructor
        · intro given
          obtain ⟨rfl, opened⟩ := given
          exact ⟨rfl, opened⟩
        · intro given
          obtain ⟨rfl, opened⟩ := given
          exact ⟨rfl, opened⟩
      · simp only [names, false_and, and_false, Bool.false_eq_true, ↓reduceIte, reduceCtorEq]
  | none =>
      simp only
      cases reached : above (Path.steps path) with
      | error fault => simp [Except.toOption]
      | ok top =>
          obtain rfl := above_eq_ok reached
          constructor
          · intro h
            obtain rfl := Except.ok.inj h
            exact ⟨rfl, openWay_nil t []⟩
          · intro given
            obtain ⟨same, -⟩ := given
            exact congrArg Except.ok (Option.some.inj same)

/-- Steps that can be followed can be followed in every tree with the same directories or
more.
-/
theorem follow_mono {here : Place} {steps : List String}
    (more : ∀ place, t.node? place = some .directory → t'.node? place = some .directory)
    (followed : t.follow here steps = .ok place)
    : t'.follow here steps = .ok place := by
  induction steps generalizing here with
  | nil => exact followed
  | cons step rest ih =>
      rw [follow] at *
      split at followed
      next there =>
        rw [more here there]
        dsimp only
        split at followed
        next back => rw [if_pos back, followed]
        next ahead =>
          rw [if_neg ahead]
          split at followed
          next short =>
            rw [if_pos short]
            exact ih followed
          next => contradiction
      next => contradiction
      next => contradiction

/-- A path that leads to a place leads there in every tree with the same directories or
more.
-/
theorem locate_mono
    (more : ∀ place, t.node? place = some .directory → t'.node? place = some .directory)
    (located : t.locate path = .ok place)
    : t'.locate path = .ok place := by
  unfold locate at *
  split at located
  next => contradiction
  next namable =>
    rw [if_neg namable]
    split at located
    next => contradiction
    next short =>
      rw [if_neg short]
      split at located
      next => contradiction
      next given =>
        rw [if_neg given]
        split at located
        next steps inside => exact follow_mono more located
        next outside => exact located

/-- What a path finds is what is at the place it leads to. -/
theorem find_of_locate (located : t.locate path = .ok place)
    : t.find path
      = match t.node? place with
        | some (.file mode bytes) =>
            if Path.demandsDirectory path then .error .refused else .ok (.file mode bytes)
        | some .directory => .ok .directory
        | none => .error .missing := by
  rw [find, located]
  rfl

/-- What is at the end of a path is still there in a tree that has all nodes of the first. -/
theorem Keeps.entryAt_of_some (keeps : Keeps t t') {node : FileNode}
    (found : t.entryAt path = some node)
    : t'.entryAt path = some node := by
  unfold entryAt at found
  cases located : t.locate path with
  | error fault =>
      rw [find, located] at found
      contradiction
  | ok place =>
      have located' := locate_mono (fun _ => keeps _ _) located
      rw [find_of_locate located] at found
      rw [entryAt, find_of_locate located']
      cases there : t.node? place with
      | none =>
          rw [there] at found
          contradiction
      | some node =>
          rw [keeps place node there, ← there]
          exact found

/-- What is at the end of a path is still there in a grown tree. -/
theorem Grown.entryAt_of_some {near : Place → Prop} (grown : Grown near t t') {node : FileNode}
    (found : t.entryAt path = some node)
    : t'.entryAt path = some node :=
  Keeps.entryAt_of_some grown.kept found

/-- In a well-formed tree, what is at the end of a path is what is at its place. -/
theorem entryAt_eq (h : t.WellFormed) (forward : Forward (Path.steps path))
    : t.entryAt path
      = (placeOf? path).bind fun place => (t.node? place).filter (mayEndIn path) := by
  have leads (place : Place)
      : t.locate path = .ok place ↔ placeOf? path = some place ∧ OpenWay t [] place :=
    locate_eq_ok_iff forward
  unfold entryAt
  cases located : t.locate path with
  | ok place =>
      obtain ⟨toPlace, -⟩ := (leads place).mp located
      rw [find_of_locate located, toPlace, Option.bind_some]
      cases t.node? place with
      | none => rfl
      | some node =>
          cases node with
          | directory => rfl
          | file mode bytes =>
              cases demands : Path.demandsDirectory path <;>
                simp [demands, mayEndIn, Except.toOption, Option.filter]
  | error fault =>
      have nowhere : (t.find path).toOption = none := by
        rw [find, located]
        rfl
      rw [nowhere]
      cases toPlace : placeOf? path with
      | none => rfl
      | some place =>
          cases found : t.node? place with
          | none => simp [found]
          | some node =>
              have opened : OpenWay t [] place := h.openWay (by simp [found])
              rw [(leads place).mpr ⟨toPlace, opened⟩] at located
              contradiction

/-- What is at the end of a path is the same in trees with the same node at its place. -/
theorem entryAt_congr (h : t.WellFormed) (h' : t'.WellFormed)
    (forward : Forward (Path.steps path))
    (same : ∀ place ∈ placeOf? path, t'.node? place = t.node? place)
    : t'.entryAt path = t.entryAt path := by
  rw [entryAt_eq h forward, entryAt_eq h' forward]
  cases toPlace : placeOf? path with
  | none => rfl
  | some place => simp [same place toPlace]

/-- A file at the end of a path is what is read there. -/
theorem read_of_entryAt {mode : Nat} {bytes : ByteArray}
    (found : t.entryAt path = some (.file mode bytes))
    : t.read path = .ok bytes := by
  unfold entryAt at found
  cases finds : t.find path with
  | error fault =>
      rw [finds] at found
      contradiction
  | ok node =>
      rw [finds] at found
      obtain rfl := Option.some.inj found
      exact bind_eq_ok.mpr ⟨_, finds, rfl⟩

/-- What is read at the end of a path is a file there. -/
theorem entryAt_of_read {bytes : ByteArray} (h : t.read path = .ok bytes)
    : ∃ mode, t.entryAt path = some (.file mode bytes) := by
  obtain ⟨node, finds, h⟩ := bind_eq_ok.mp h
  unfold entryAt
  rw [finds]
  cases node with
  | file mode other =>
      obtain rfl := Except.ok.inj h
      exact ⟨mode, rfl⟩
  | directory => contradiction

-----------------------------------------------------------------------------------------
-- The way to a path
-----------------------------------------------------------------------------------------

/-- The place of the directory of a path, where it can be made. -/
def wayTo (path : String) : Place := (stepsFromHome? (Path.directoryOf path)).getD []

/-- The directory of a path is one step above it. -/
theorem stepsFromHome?_directoryOf {steps : List String} {name : String}
    (inside : stepsFromHome? path = some (steps ++ [name]))
    : stepsFromHome? (Path.directoryOf path) = some steps := by
  unfold stepsFromHome? at *
  have nonempty : Path.steps path ≠ [] := by
    intro empty
    rw [empty] at inside
    split at inside
    · simp [home, List.isPrefixOf?] at inside
    · simp at inside
  rw [Path.isAbsolute_directoryOf nonempty, Path.steps_directoryOf]
  split at inside
  next root =>
    rw [if_pos root, isPrefixOf?_eq_some_iff, isPrefixOf?_eq_some_iff.mp inside,
      ← List.append_assoc, List.dropLast_concat]
  next relative =>
    rw [if_neg relative, Option.some.inj inside, List.dropLast_concat]

/-- A path leads to the working directory, or its place is not on the way to it. -/
theorem not_prefix_wayTo (toPlace : placeOf? path = some place)
    : place = [] ∨ ¬ place <+: wayTo path := by
  unfold placeOf? at toPlace
  split at toPlace
  · cases inside : stepsFromHome? path with
    | none =>
        rw [inside] at toPlace
        simp only at toPlace
        cases reached : above (Path.steps path) with
        | error fault =>
            rw [reached] at toPlace
            contradiction
        | ok top =>
            rw [reached] at toPlace
            exact .inl (Option.some.inj toPlace ▸ above_eq_ok reached)
    | some steps =>
        rw [inside] at toPlace
        simp only at toPlace
        split at toPlace
        · obtain rfl := Option.some.inj toPlace
          induction steps using List.reverseRecOn with
          | nil => exact .inl rfl
          | append_singleton steps name =>
              refine .inr fun near => ?_
              rw [wayTo, stepsFromHome?_directoryOf inside, Option.getD_some] at near
              have longer := near.length_le
              rw [List.length_append, List.length_singleton] at longer
              omega
        · contradiction
  · contradiction

/-- Making directories on the way to a path leaves what is at its end as it is. -/
theorem Grown.entryAt_eq (grown : Grown (· <+: wayTo path) t t') (h : t.WellFormed)
    (h' : t'.WellFormed) (forward : Forward (Path.steps path))
    : t'.entryAt path = t.entryAt path := by
  refine entryAt_congr h h' forward fun place toPlace => ?_
  rcases not_prefix_wayTo toPlace with rfl | off
  · rfl
  · exact grown.node?_eq off

end PerfLedger.FileTree
