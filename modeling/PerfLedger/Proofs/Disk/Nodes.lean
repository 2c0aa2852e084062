import Mathlib.Data.List.Basic
import PerfLedger.Disk.FileTree

/-! What is at a place of a tree after nodes were put there or erased, and how a tree grows
when directories are made.
-/

namespace PerfLedger.FileTree

variable {t : FileTree} {place other : Place}

-----------------------------------------------------------------------------------------
-- One node
-----------------------------------------------------------------------------------------

theorem node?_nil (t : FileTree) : t.node? [] = some .directory := rfl

/-- Below the working directory, what is at a place is what the tree lists there. -/
theorem node?_of_ne (t : FileTree) (below : place ≠ []) : t.node? place = t.nodes.lookup place := by
  cases place with
  | nil => contradiction
  | cons name rest => rfl

/-- A lookup passes over other places. -/
theorem lookup_filter_ne (nodes : List (Place × FileNode)) (apart : other ≠ place)
    : (nodes.filter fun entry => entry.1 != place).lookup other = nodes.lookup other := by
  induction nodes with
  | nil => rfl
  | cons entry nodes ih =>
      rw [List.filter_cons]
      split
      next => rw [List.lookup_cons, List.lookup_cons, ih]
      next kept =>
        have same : entry.1 = place := by simpa using kept
        rw [ih, List.lookup_cons, same, beq_eq_false_iff_ne.mpr apart]

theorem node?_put_self (t : FileTree) (node : FileNode) (below : place ≠ [])
    : (t.put place node).node? place = some node := by
  rw [node?_of_ne _ below, put, List.lookup_cons_self]

theorem node?_put_of_ne (t : FileTree) (node : FileNode) (apart : other ≠ place)
    : (t.put place node).node? other = t.node? other := by
  cases other with
  | nil => rfl
  | cons name rest =>
      rw [node?_of_ne _ (List.cons_ne_nil _ _), put, List.lookup_cons,
        beq_eq_false_iff_ne.mpr apart]
      exact lookup_filter_ne t.nodes apart

theorem put_put (t : FileTree) (place : Place) (node node' : FileNode)
    : (t.put place node).put place node' = t.put place node' := by
  simp [put, erase, List.filter_filter]

theorem lookup_of_not_mem {nodes : List (Place × FileNode)}
    (absent : place ∉ nodes.map Prod.fst)
    : nodes.lookup place = none := by
  induction nodes with
  | nil => rfl
  | cons entry nodes ih =>
      rw [List.map_cons, List.mem_cons, not_or] at absent
      rw [List.lookup_cons, beq_eq_false_iff_ne.mpr absent.1]
      exact ih absent.2

/-- Putting a node where nothing is listed and erasing it again changes nothing. -/
theorem erase_put (t : FileTree) (node : FileNode) (absent : place ∉ t.nodes.map Prod.fst)
    : (t.put place node).erase place = t := by
  have all : ∀ entry ∈ t.nodes, (entry.1 != place) = true := by
    intro entry member
    rw [bne_iff_ne]
    intro same
    subst same
    exact absent (List.mem_map_of_mem member)
  simp [put, erase, List.filter_eq_self.mpr all]

-----------------------------------------------------------------------------------------
-- Trees
-----------------------------------------------------------------------------------------

/-- Nodes of a tree stand in directories. -/
def WellFormed (t : FileTree) : Prop :=
  ∀ place name, (t.node? (place ++ [name])).isSome = true → t.node? place = some .directory

theorem wellFormed_empty : empty.WellFormed := by
  intro place name found
  rw [node?_of_ne _ (by simp)] at found
  contradiction

/-- One tree has all nodes of another. -/
def Keeps (t t' : FileTree) : Prop :=
  ∀ place node, t.node? place = some node → t'.node? place = some node

/-- One tree has the nodes of another, and beyond them only directories, at certain places. -/
structure Grown (near : Place → Prop) (t t' : FileTree) : Prop where
  kept : Keeps t t'
  added : ∀ place, t.node? place = none →
    t'.node? place = none ∨ t'.node? place = some .directory ∧ near place

section

variable {near : Place → Prop} {t' t'' : FileTree}

theorem Grown.refl (near : Place → Prop) (t : FileTree) : Grown near t t where
  kept := fun _ _ found => found
  added := fun _ absent => .inl absent

theorem Grown.trans (first : Grown near t t') (second : Grown near t' t'')
    : Grown near t t'' where
  kept := fun place node found => second.kept place node (first.kept place node found)
  added := by
    intro place absent
    rcases first.added place absent with still | ⟨made, close⟩
    · exact second.added place still
    · exact .inr ⟨second.kept place _ made, close⟩

theorem Grown.mono {near' : Place → Prop} (h : Grown near t t')
    (more : ∀ place, near place → near' place)
    : Grown near' t t' where
  kept := h.kept
  added := fun place absent =>
    (h.added place absent).imp_right fun made => ⟨made.1, more place made.2⟩

theorem Grown.node?_eq (h : Grown near t t') (off : ¬ near place)
    : t'.node? place = t.node? place := by
  cases found : t.node? place with
  | some node => exact h.kept place node found
  | none => exact (h.added place found).resolve_right fun made => off made.2

/-- The files of a grown tree are those that were there before. -/
theorem Grown.file_iff {mode : Nat} {bytes : ByteArray} (h : Grown near t t')
    : t'.node? place = some (.file mode bytes) ↔ t.node? place = some (.file mode bytes) := by
  refine ⟨fun found => ?_, h.kept place _⟩
  cases before : t.node? place with
  | some node => rw [← h.kept place node before, found]
  | none =>
      rcases h.added place before with absent | ⟨made, -⟩
      · rw [absent] at found
        contradiction
      · rw [made] at found
        simp at found

/-- A directory made where nothing was is growth. -/
theorem grown_put (t : FileTree) (absent : t.node? place = none) (close : near place)
    : Grown near t (t.put place .directory) where
  kept := by
    intro other node found
    have apart : other ≠ place := by
      intro same
      subst same
      rw [found] at absent
      contradiction
    rw [node?_put_of_ne _ _ apart, found]
  added := by
    intro other missing
    by_cases same : other = place
    · subst same
      have below : other ≠ [] := by
        intro same
        subst same
        contradiction
      exact .inr ⟨node?_put_self _ _ below, close⟩
    · exact .inl ((node?_put_of_ne _ _ same).trans missing)

end

/-- One tree has directories and files where another has them. -/
structure Covers (t t' : FileTree) : Prop where
  directories : ∀ place, t.node? place = some .directory → t'.node? place = some .directory
  files : ∀ place mode bytes, t.node? place = some (.file mode bytes) →
    ∃ mode' bytes', t'.node? place = some (.file mode' bytes')

theorem Covers.refl (t : FileTree) : Covers t t where
  directories := fun _ there => there
  files := fun _ mode bytes there => ⟨mode, bytes, there⟩

/-- A file where no directory was leaves the tree covered. -/
theorem covers_put (t : FileTree) (free : t.node? place ≠ some .directory) (mode : Nat)
    (bytes : ByteArray)
    : Covers t (t.put place (.file mode bytes)) where
  directories := by
    intro other there
    have apart : other ≠ place := by
      intro same
      subst same
      exact free there
    rw [node?_put_of_ne t _ apart, there]
  files := by
    intro other mode' bytes' there
    by_cases same : other = place
    · subst same
      have below : other ≠ [] := by
        intro same
        subst same
        exact free rfl
      exact ⟨mode, bytes, node?_put_self t _ below⟩
    · exact ⟨mode', bytes', (node?_put_of_ne t _ same).trans there⟩

/-- A tree stays well-formed when a node is put in a directory, but not over one. -/
theorem WellFormed.put {name : String} (h : t.WellFormed) (node : FileNode)
    (free : t.node? (place ++ [name]) ≠ some .directory)
    (parent : t.node? place = some .directory)
    : (t.put (place ++ [name]) node).WellFormed := by
  intro other last found
  have apart : other ≠ place ++ [name] := by
    intro same
    subst same
    have longer : place ++ [name] ++ [last] ≠ place ++ [name] := by simp
    rw [node?_put_of_ne _ _ longer] at found
    exact free (h _ _ found)
  rw [node?_put_of_ne _ _ apart]
  by_cases same : other ++ [last] = place ++ [name]
  · rw [(List.append_inj' same rfl).1]
    exact parent
  · rw [node?_put_of_ne _ _ same] at found
    exact h _ _ found

end PerfLedger.FileTree
