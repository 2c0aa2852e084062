import PerfLedger.Proofs.Disk.Places

/-! Making directories only adds directories, on the way to the last of them. Made again, they
are there already.
-/

namespace PerfLedger.FileTree

variable {t t' : FileTree} {here place : Place} {path : String}

-----------------------------------------------------------------------------------------
-- Step by step
-----------------------------------------------------------------------------------------

/-- The places that some steps lead through. -/
def passed (here : Place) : List String → List Place
  | [] => []
  | step :: rest => move here step :: passed (move here step) rest

/-- Steps forward lead through the places above the one at their end. -/
theorem prefix_of_mem_passed {steps : List String} (forward : Forward steps)
    (member : place ∈ passed here steps)
    : place <+: here ++ steps := by
  induction steps generalizing here with
  | nil => contradiction
  | cons step rest ih =>
      rw [Forward, List.mem_cons, not_or] at forward
      obtain ⟨first, forward⟩ := forward
      rw [passed, move_forward (Ne.symm first)] at member
      have whole : here ++ step :: rest = here ++ [step] ++ rest := by simp
      rw [whole]
      rcases List.mem_cons.mp member with rfl | later
      · exact List.prefix_append _ _
      · exact ih forward later

/-- Making directories step by step adds some of those that the steps lead through. -/
theorem grown_makeSteps (t : FileTree) (here : Place) (steps : List String)
    : Grown (· ∈ passed here steps) t (t.makeSteps here steps).2 := by
  induction steps generalizing t here with
  | nil => exact .refl _ t
  | cons step rest ih =>
      have later (t' : FileTree)
          : Grown (· ∈ passed here (step :: rest)) t'
              (t'.makeSteps (move here step) rest).2 :=
        (ih t' _).mono fun _ member => List.mem_cons_of_mem _ member
      unfold makeSteps
      dsimp only
      split
      next => exact .refl _ t
      next =>
        split
        next =>
          split
          next => exact later t
          next => exact .refl _ t
          next absent => exact (grown_put t absent List.mem_cons_self).trans (later _)
        next => exact .refl _ t

/-- Making the same directories again changes nothing, and stops at the same fault. It may be
done in any tree that covers what the first time led to.
-/
theorem makeSteps_again {steps : List String} {answer : Except DiskFault Unit}
    (made : t.makeSteps here steps = (answer, t')) {t'' : FileTree} (covers : Covers t' t'')
    : t''.makeSteps here steps = (answer, t'') := by
  induction steps generalizing t here with
  | nil =>
      obtain ⟨rfl, rfl⟩ := Prod.mk.inj made
      rfl
  | cons step rest ih =>
      rw [makeSteps] at made
      rw [makeSteps]
      split at made
      next back =>
        obtain ⟨rfl, rfl⟩ := Prod.mk.inj made
        rw [if_pos back]
      next ahead =>
        split at made
        next short =>
          have again {before : FileTree} (there : before.node? (move here step) = some .directory)
              (made : before.makeSteps (move here step) rest = (answer, t'))
              : t''.node? (move here step) = some .directory := by
            have grown := grown_makeSteps before (move here step) rest
            rw [made] at grown
            exact covers.directories _ (grown.kept _ _ there)
          rw [if_neg ahead, if_pos short]
          split at made
          next there =>
            rw [again there made]
            exact ih made
          next there =>
            obtain ⟨rfl, rfl⟩ := Prod.mk.inj made
            obtain ⟨mode, bytes, there⟩ := covers.files _ _ _ there
            rw [there]
          next absent =>
            have below : move here step ≠ [] := by
              intro top
              rw [top] at absent
              contradiction
            rw [again (node?_put_self t .directory below) made]
            exact ih made
        next long =>
          obtain ⟨rfl, rfl⟩ := Prod.mk.inj made
          rw [if_neg ahead, if_neg long]

/-- Making directories forward keeps a tree well-formed, by induction on the steps. -/
theorem WellFormed.makeSteps {steps : List String} (h : t.WellFormed) (forward : Forward steps)
    (start : t.node? here = some .directory)
    : (t.makeSteps here steps).2.WellFormed := by
  induction steps generalizing t here with
  | nil => exact h
  | cons step rest ih =>
      rw [Forward, List.mem_cons, not_or] at forward
      obtain ⟨first, forward⟩ := forward
      rw [FileTree.makeSteps, move_forward (Ne.symm first)]
      split
      next => exact h
      next =>
        split
        next =>
          split
          next there => exact ih h forward there
          next => exact h
          next absent =>
            refine ih (h.put _ (by simp [absent]) start) forward ?_
            exact node?_put_self t _ (by simp)
        next => exact h

-----------------------------------------------------------------------------------------
-- On the way to a path
-----------------------------------------------------------------------------------------

/-- What is left of a tree when directories are made on the way to a path: all of it, and
beyond that only directories on the way.
-/
structure Prepared (path : String) (t t' : FileTree) : Prop where
  grown : Grown (· <+: wayTo path) t t'
  wellFormed : t'.WellFormed

theorem WellFormed.prepared (h : t.WellFormed) (path : String) : Prepared path t t :=
  ⟨.refl _ t, h⟩

/-- Steps on the way to a path prepare it. -/
theorem WellFormed.prepared_makeSteps {steps : List String} (h : t.WellFormed)
    (forward : Forward steps) (near : steps <+: wayTo path)
    : Prepared path t (t.makeSteps [] steps).2 where
  grown := (grown_makeSteps t [] steps).mono fun _ member =>
    (prefix_of_mem_passed forward member).trans near
  wellFormed := h.makeSteps forward (node?_nil t)

/-- The directory of a path is reached by steps forward if the path is. -/
theorem forward_directoryOf (forward : Forward (Path.steps path))
    : Forward (Path.steps (Path.directoryOf path)) := by
  rw [Path.steps_directoryOf]
  exact fun back => forward (List.dropLast_subset _ back)

/-- Making the directory of a path prepares it. -/
theorem WellFormed.prepared_makeDirectories (h : t.WellFormed)
    (forward : Forward (Path.steps path))
    : Prepared path t (t.makeDirectories (Path.directoryOf path)).2 := by
  unfold makeDirectories
  split
  next => exact h.prepared path
  next =>
    split
    next => exact h.prepared path
    next =>
      split
      next steps inside =>
        have near : steps <+: wayTo path := by
          rw [wayTo, inside]
          exact List.prefix_rfl
        exact h.prepared_makeSteps (forward_stepsFromHome (forward_directoryOf forward) inside)
          near
      next => exact h.prepared path

/-- Making directories adds nothing else, wherever the path leads through. -/
theorem grown_makeDirectories (t : FileTree) (path : String)
    : Grown (fun _ => True) t (t.makeDirectories path).2 := by
  unfold makeDirectories
  split
  next => exact .refl _ t
  next =>
    split
    next => exact .refl _ t
    next =>
      split
      next steps inside => exact (grown_makeSteps t [] steps).mono fun _ _ => trivial
      next => exact .refl _ t

/-- Making the same directories again changes nothing, and stops at the same fault. It may be
done in any tree that covers what the first time led to.
-/
theorem makeDirectories_again {answer : Except DiskFault Unit}
    (made : t.makeDirectories path = (answer, t')) {t'' : FileTree} (covers : Covers t' t'')
    : t''.makeDirectories path = (answer, t'') := by
  unfold makeDirectories at *
  split at made
  next unnamable =>
    obtain ⟨rfl, rfl⟩ := Prod.mk.inj made
    rw [if_pos unnamable]
  next namable =>
    rw [if_neg namable]
    split at made
    next long =>
      obtain ⟨rfl, rfl⟩ := Prod.mk.inj made
      rw [if_pos long]
    next short =>
      rw [if_neg short]
      split at made
      next steps inside => exact makeSteps_again made covers
      next outside =>
        obtain ⟨rfl, rfl⟩ := Prod.mk.inj made
        rfl

end PerfLedger.FileTree
