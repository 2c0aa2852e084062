import PerfLedger.Proofs.Disk.NewDirectories

/-! A temporary file stands next to the end of a path, where nothing was before. It can be
changed or discarded without touching anything else, and moved to the end of the path.
-/

namespace PerfLedger.FileTree

variable {t t' : FileTree} {place target : Place} {path : String}

-----------------------------------------------------------------------------------------
-- Its place
-----------------------------------------------------------------------------------------

/-- A fresh name is longer than any of the names. -/
theorem length_lt_freshName {names : List String} {name : String} (member : name ∈ names)
    : name.length < (freshName names).length := by
  have all : name.toList.length ≤ (names.flatMap String.toList).length :=
    (List.sublist_flatten_of_mem (List.mem_map_of_mem member)).length_le
  rw [String.length_toList] at all
  have tail (n : Nat) : (String.ofList (List.replicate n 'x')).length = n := by
    rw [String.length_ofList, List.length_replicate]
  rw [freshName, String.length_append, tail]
  exact Nat.lt_of_le_of_lt all (Nat.lt_add_of_pos_left (by decide))

theorem freshName_not_mem (names : List String) : freshName names ∉ names :=
  fun member => absurd (length_lt_freshName member) (Nat.lt_irrefl _)

/-- Where a temporary file may stand: in a directory, where nothing is listed, and under a
name that is not on the path.
-/
structure Vacant (t : FileTree) (path : String) (place : Place) : Prop where
  named : ∃ parent name, place = parent ++ [name] ∧ t.node? parent = some .directory
    ∧ name ∉ Path.steps path
  absent : place ∉ t.nodes.map Prod.fst

/-- A fresh place is vacant. -/
theorem vacant_of_freshPlace {directory : String}
    (found : t.freshPlace directory path = .ok place)
    : Vacant t path place := by
  unfold freshPlace at found
  dsimp only at found
  split at found
  next => contradiction
  obtain ⟨parent, located, found⟩ := bind_eq_ok.mp found
  split at found
  next there =>
    obtain rfl := Except.ok.inj found
    have fresh := freshName_not_mem (Path.steps path ++ t.nodes.flatMap Prod.fst)
    generalize freshName (Path.steps path ++ t.nodes.flatMap Prod.fst) = name at *
    rw [List.mem_append, not_or] at fresh
    refine ⟨⟨parent, name, rfl, there, fresh.1⟩, fun member => fresh.2 ?_⟩
    obtain ⟨entry, present, same⟩ := List.mem_map.mp member
    exact List.mem_flatMap.mpr ⟨entry, present, by simp [same]⟩
  next => contradiction

theorem createTemporary_ok {directory : String} (found : t.freshPlace directory path = .ok place)
    : (Disk.createTemporary directory path : Run _) t
      = (.ok place, t.put place (.file privateMode ByteArray.empty)) := by
  simp only [Disk.createTemporary, found]

theorem createTemporary_error {directory : String} {fault : DiskFault}
    (failed : t.freshPlace directory path = .error fault)
    : (Disk.createTemporary directory path : Run _) t = (.error fault, t) := by
  simp only [Disk.createTemporary, failed]

theorem Vacant.ne_nil (h : Vacant t path place) : place ≠ [] := by
  obtain ⟨parent, name, rfl, -⟩ := h.named
  simp

theorem Vacant.node?_eq_none (h : Vacant t path place) : t.node? place = none := by
  rw [node?_of_ne t h.ne_nil]
  exact lookup_of_not_mem h.absent

/-- A path leads to names that are on it. -/
theorem mem_steps_of_placeOf? {name : String} (toPlace : placeOf? path = some place)
    (member : name ∈ place)
    : name ∈ Path.steps path := by
  unfold placeOf? at toPlace
  split at toPlace
  next =>
    split at toPlace
    next steps inside =>
      split at toPlace
      next =>
        obtain rfl := Option.some.inj toPlace
        unfold stepsFromHome? at inside
        split at inside
        next =>
          rw [isPrefixOf?_eq_some_iff.mp inside]
          exact List.mem_append_right _ member
        next => exact Option.some.inj inside ▸ member
      next => contradiction
    next =>
      cases reached : above (Path.steps path) with
      | error fault =>
          rw [reached] at toPlace
          contradiction
      | ok top =>
          rw [reached] at toPlace
          obtain rfl := Option.some.inj toPlace
          obtain rfl := above_eq_ok reached
          contradiction
  next => contradiction

/-- A vacant place is not the end of the path. -/
theorem Vacant.ne_placeOf (h : Vacant t path place) (toPlace : placeOf? path = some target)
    : target ≠ place := by
  obtain ⟨parent, name, rfl, -, fresh⟩ := h.named
  intro same
  subst same
  exact fresh (mem_steps_of_placeOf? toPlace (by simp))

theorem Vacant.wellFormed_put (h : Vacant t path place) (formed : t.WellFormed) (mode : Nat)
    (bytes : ByteArray)
    : (t.put place (.file mode bytes)).WellFormed := by
  have absent := h.node?_eq_none
  obtain ⟨parent, name, rfl, there, -⟩ := h.named
  exact formed.put _ (by simp [absent]) there

/-- A file at a vacant place leaves what is at the end of the path as it is. -/
theorem Vacant.entryAt_put (h : Vacant t path place) (formed : t.WellFormed)
    (forward : Forward (Path.steps path)) (mode : Nat) (bytes : ByteArray)
    : (t.put place (.file mode bytes)).entryAt path = t.entryAt path :=
  entryAt_congr formed (h.wellFormed_put formed mode bytes) forward fun _ toPlace =>
    node?_put_of_ne t _ (h.ne_placeOf toPlace)

-----------------------------------------------------------------------------------------
-- What is done with it
-----------------------------------------------------------------------------------------

theorem commit_ok {change : FileTree → Except DiskFault FileTree} (h : change t = .ok t')
    : commit change t = (.ok (), t') := by
  rw [commit, h]

theorem commit_error {change : FileTree → Except DiskFault FileTree} {fault : DiskFault}
    (h : change t = .error fault)
    : commit change t = (.error fault, t) := by
  rw [commit, h]

theorem moveTo_apply (place : Place) (path : String) (t : FileTree)
    : (Disk.moveTo (m := Run) place path) t = commit (fun t => t.moveTo place path) t :=
  rfl

theorem adjust_put (t : FileTree) (below : place ≠ []) (mode : Nat) (bytes : ByteArray)
    (change : Nat → ByteArray → FileNode)
    : (t.put place (.file mode bytes)).adjust place change
      = .ok (t.put place (change mode bytes)) := by
  rw [adjust, node?_put_self t _ below]
  exact congrArg Except.ok (put_put t place _ _)

/-- A file is moved to the place that a path leads to, if the path may end in a file and no
directory is in the way.
-/
structure Target (t : FileTree) (path : String) (target : Place) : Prop where
  mayEnd : (!Path.isNamable path || Path.demandsDirectory path) = false
  located : t.locate path = .ok target
  free : t.node? target ≠ some .directory

/-- A file at a vacant place leaves the directories as they are. -/
theorem Vacant.directory_iff (h : Vacant t path place) (mode : Nat) (bytes : ByteArray)
    (other : Place)
    : (t.put place (.file mode bytes)).node? other = some .directory
      ↔ t.node? other = some .directory := by
  by_cases same : other = place
  · rw [same, node?_put_self t _ h.ne_nil, h.node?_eq_none]
    simp
  · rw [node?_put_of_ne t _ same]

/-- A file at a vacant place is moved exactly to the target of the path. -/
theorem Vacant.moveTo_put_iff (h : Vacant t path place) {mode : Nat} {bytes : ByteArray}
    : (t.put place (.file mode bytes)).moveTo place path = .ok t'
      ↔ ∃ target, Target t path target ∧ t' = t.put target (.file mode bytes) := by
  have directories := h.directory_iff mode bytes
  unfold moveTo
  dsimp only
  cases mayEnd : !Path.isNamable path || Path.demandsDirectory path with
  | true =>
      refine ⟨(nomatch ·), ?_⟩
      intro given
      obtain ⟨target, movable, -⟩ := given
      rw [movable.mayEnd] at mayEnd
      contradiction
  | false =>
      rw [if_neg Bool.false_ne_true]
      constructor
      · intro moved
        obtain ⟨target, located, moved⟩ := bind_eq_ok.mp moved
        rw [node?_put_self t _ h.ne_nil, erase_put t _ h.absent] at moved
        split at moved
        next => contradiction
        next same free =>
          obtain ⟨rfl, rfl⟩ := FileNode.file.inj (Option.some.inj same)
          exact ⟨target, ⟨mayEnd, locate_mono (fun other => (directories other).mp) located,
            fun there => free ((directories target).mpr there)⟩, (Except.ok.inj moved).symm⟩
        next => contradiction
      · intro given
        obtain ⟨target, movable, rfl⟩ := given
        refine bind_eq_ok.mpr ⟨target, locate_mono (fun other => (directories other).mpr)
          movable.located, ?_⟩
        rw [node?_put_self t _ h.ne_nil, erase_put t _ h.absent]
        split
        next there => exact absurd ((directories target).mp there) movable.free
        next same _ =>
          obtain ⟨rfl, rfl⟩ := FileNode.file.inj (Option.some.inj same)
          rfl
        next none => exact absurd rfl (none _ _)

/-- A file that was moved to the target of a path is at its end. -/
theorem Target.entryAt_put (h : Target t path target) (mode : Nat) (bytes : ByteArray)
    : (t.put target (.file mode bytes)).entryAt path = some (.file mode bytes) := by
  have below : target ≠ [] := by
    intro same
    subst same
    exact h.free rfl
  have located : (t.put target (.file mode bytes)).locate path = .ok target :=
    locate_mono (covers_put t h.free mode bytes).directories h.located
  have mayEnd := (Bool.or_eq_false_iff.mp h.mayEnd).2
  rw [entryAt, find_of_locate located, node?_put_self t _ below]
  simp [mayEnd, Except.toOption]

/-- A tree stays well-formed when a file is moved to the target of a path. -/
theorem Target.wellFormed_put (h : Target t path target) (formed : t.WellFormed)
    (forward : Forward (Path.steps path)) (mode : Nat) (bytes : ByteArray)
    : (t.put target (.file mode bytes)).WellFormed := by
  obtain ⟨-, opened⟩ := (locate_eq_ok_iff forward).mp h.located
  rcases List.eq_nil_or_concat target with empty | ⟨parent, name, shape⟩
  · exact absurd (empty ▸ node?_nil t) h.free
  · rw [List.concat_eq_append] at shape
    subst shape
    have there : t.node? parent = some .directory := by
      simpa using opened parent [name] rfl (List.cons_ne_nil _ _)
    exact formed.put _ h.free there

end PerfLedger.FileTree
