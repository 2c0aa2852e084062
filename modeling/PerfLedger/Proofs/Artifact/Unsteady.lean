import PerfLedger.Proofs.Artifact.Saving

/-! A disk on which every operation may fail, at any point of it. What it shows in between is
kept, so that statements can be made of every tree that somebody else could have seen.
-/

namespace PerfLedger

-----------------------------------------------------------------------------------------
-- The disk
-----------------------------------------------------------------------------------------

/-- A tree of files, and what will go wrong with it: for every operation to come, whether it
is refused, and how much of it is done by then. After the last of these slips all goes well.
`seen` holds every tree so far, from the latest back.
-/
structure World where
  tree : FileTree
  slips : List (Option Nat)
  seen : List FileTree

/-- A computation on a disk that may fail. -/
abbrev Unsteady := StateM World

namespace Unsteady

/-- An operation of the tree, or what is left of it at a slip. -/
def attempt {α : Type} (operation : FileTree.Run (Except DiskFault α))
    (spoiled : Nat → FileTree → FileTree)
    : Unsteady (Except DiskFault α) :=
  fun world =>
    let (result, tree) :=
      match world.slips.head?.join with
      | some progress => (.error .refused, spoiled progress world.tree)
      | none => operation world.tree
    (result, { tree, slips := world.slips.tail, seen := tree :: world.seen })

/-- Nothing of an operation is done. -/
def nothing (_ : Nat) (tree : FileTree) : FileTree := tree

/-- The tree after the first few directories on the way to a path were made. -/
def makeSome (path : String) (count : Nat) (tree : FileTree) : FileTree :=
  match FileTree.stepsFromHome? path with
  | some steps =>
      if Path.isNamable path && Path.isShort path then
        (tree.makeSteps [] (steps.take count)).2
      else tree
  | none => tree

/-- The tree after the first few bytes were written to a file. -/
def writeSome (place : Place) (bytes : ByteArray) (count : Nat) (tree : FileTree) : FileTree :=
  match tree.adjust place fun mode _ => .file mode (bytes.extract 0 count) with
  | .ok tree => tree
  | .error _ => tree

/-- A temporary file can always be discarded. -/
def discard (place : Place) : Unsteady Unit :=
  fun world =>
    let tree := world.tree.erase place
    ((), { world with tree, seen := tree :: world.seen })

/-- Reads something off the tree. -/
def look {α : Type} (view : FileTree.Run α) : Unsteady α :=
  fun world => ((view world.tree).1, world)

instance : Disk Unsteady where
  Temporary := Place
  pathOf place := FileTree.fullPath ("/".intercalate place)
  fullPath path := look (Disk.fullPath path)
  readFile path := attempt (Disk.readFile path) nothing
  isPresent path := look (Disk.isPresent path)
  isFile path := look (Disk.isFile path)
  findUpward name := look (Disk.findUpward name)
  makeDirectories path := attempt (Disk.makeDirectories path) (makeSome path)
  createTemporary directory target :=
    attempt (Disk.createTemporary directory target : FileTree.Run _) nothing
  setMode place mode := attempt (Disk.setMode (m := FileTree.Run) place mode) nothing
  write place bytes :=
    attempt (Disk.write (m := FileTree.Run) place bytes) (writeSome place bytes)
  sync place := attempt (Disk.sync (m := FileTree.Run) place) nothing
  moveTo place path := attempt (Disk.moveTo (m := FileTree.Run) place path) nothing
  discard := discard

end Unsteady

-----------------------------------------------------------------------------------------
-- Looking at the disk
-----------------------------------------------------------------------------------------

namespace World

/-- What reading a file comes to in a world. -/
def reads (w : World) (path : String) : Except DiskFault ByteArray :=
  if w.slips.head?.join.isSome then .error .refused else w.tree.read path

/-- The world after a file was read. The tree is as before. -/
def looked (w : World) : World := ⟨w.tree, w.slips.tail, w.tree :: w.seen⟩

@[simp]
theorem looked_tree (w : World) : w.looked.tree = w.tree := rfl

/-- Where nothing slips, looking does not slip either. -/
theorem looked_steady {w : World} (steady : w.slips = []) : w.looked.slips = [] := by
  rw [looked, steady]
  rfl

/-- What is read is there. -/
theorem read_of_reads {w : World} {path : String} {bytes : ByteArray}
    (found : w.reads path = .ok bytes)
    : w.tree.read path = .ok bytes := by
  unfold reads at found
  split at found
  · contradiction
  · exact found

/-- Reading a file is one look at the world. -/
theorem readFile_eq (w : World) (path : String)
    : (Disk.readFile path : Unsteady _) w = (w.reads path, w.looked) := by
  change Unsteady.attempt (Disk.readFile path) Unsteady.nothing w = _
  unfold Unsteady.attempt reads looked
  cases w.slips.head?.join <;> rfl

/-- To see whether something is there does not slip. -/
theorem isPresent_eq {ε : Type} (w : World) (path : String)
    : (liftM (Disk.isPresent path : Unsteady _) : ExceptT ε Unsteady Bool) w
      = (.ok (w.tree.entryAt path).isSome, w) :=
  rfl

end World

namespace Unsteady

-----------------------------------------------------------------------------------------
-- What a computation leads to
-----------------------------------------------------------------------------------------

/-- From every tree with `P`, a computation leads to an answer with `Q` or to an error with
`E`, whatever slips, and shows only trees with `S` in between.
-/
def Leads {ε α : Type} (S P : FileTree → Prop) (x : ExceptT ε Unsteady α)
    (Q : α → FileTree → Prop) (E : ε → FileTree → Prop)
    : Prop :=
  ∀ world : World, P world.tree → (∀ tree ∈ world.seen, S tree) →
    (∀ tree ∈ (x world).2.seen, S tree)
    ∧ match (x world).1 with
      | .ok answer => Q answer (x world).2.tree
      | .error cause => E cause (x world).2.tree

section

variable {ε α β : Type} {S P : FileTree → Prop} {Q : α → FileTree → Prop}
  {E : ε → FileTree → Prop}

/-- A sequence leads where its parts lead one after the other. -/
theorem Leads.bind {R : β → FileTree → Prop} {x : ExceptT ε Unsteady β}
    {f : β → ExceptT ε Unsteady α} (first : Leads S P x R E)
    (next : ∀ value, Leads S (R value) (f value) Q E)
    : Leads S P (x >>= f) Q E := by
  intro world start seen
  have led := first world start seen
  rw [bind_apply]
  revert led
  rcases x world with ⟨cause | value, after⟩
  · exact id
  · exact fun led => next value after led.2 led.1

/-- A handler takes over where its body fails. -/
theorem Leads.tryCatch {R : ε → FileTree → Prop} {x : ExceptT ε Unsteady α}
    {handler : ε → ExceptT ε Unsteady α} (body : Leads S P x Q R)
    (handled : ∀ cause, Leads S (R cause) (handler cause) Q E)
    : Leads S P (tryCatch x handler) Q E := by
  intro world start seen
  have led := body world start seen
  rw [tryCatch_apply]
  revert led
  rcases x world with ⟨cause | value, after⟩
  · exact fun led => handled cause after led.2 led.1
  · exact id

/-- An operation leads where it and all of its slips lead. -/
theorem Leads.onPath {E : StorageError → FileTree → Prop} {path : String}
    {operation : FileTree.Run (Except DiskFault α)} {spoiled : Nat → FileTree → FileTree}
    (slips : ∀ tree, P tree → ∀ progress,
      S (spoiled progress tree) ∧ E (.io path .refused) (spoiled progress tree))
    (works : ∀ tree, P tree →
      S (operation tree).2
      ∧ match (operation tree).1 with
        | .ok value => Q value (operation tree).2
        | .error fault => E (.io path fault) (operation tree).2)
    : Leads S P (Artifact.onPath path (attempt operation spoiled)) Q E := by
  intro world start seen
  rw [Artifact.onPath_apply]
  unfold attempt
  cases world.slips.head?.join with
  | some progress =>
      obtain ⟨shown, failed⟩ := slips world.tree start progress
      exact ⟨List.forall_mem_cons.mpr ⟨shown, seen⟩, failed⟩
  | none =>
      obtain ⟨shown, led⟩ := works world.tree start
      refine ⟨List.forall_mem_cons.mpr ⟨shown, seen⟩, ?_⟩
      revert led
      dsimp only
      rcases operation world.tree with ⟨fault | value, after⟩ <;> exact id

/-- A temporary file is discarded, and the error goes on. -/
theorem Leads.discard {place : Place} {cause : ε}
    (h : ∀ tree, P tree → S (tree.erase place) ∧ E cause (tree.erase place))
    : Leads S P
        (do
          let _ ← (Disk.discard (m := Unsteady) place : ExceptT ε Unsteady Unit)
          MonadExcept.throw cause : ExceptT ε Unsteady α) Q E := by
  intro world start seen
  obtain ⟨shown, led⟩ := h world.tree start
  exact ⟨List.forall_mem_cons.mpr ⟨shown, seen⟩, led⟩

end

-----------------------------------------------------------------------------------------
-- Where nothing slips
-----------------------------------------------------------------------------------------

/-- Where nothing slips, a computation does what another one does to the tree. -/
def Follows {ε α : Type} (x : ExceptT ε Unsteady α) (y : ExceptT ε FileTree.Run α) : Prop :=
  ∀ w : World, w.slips = [] →
    (x w).1 = (y w.tree).1 ∧ (x w).2.tree = (y w.tree).2 ∧ (x w).2.slips = []

section

variable {ε α β : Type} {path : String}

/-- Sequences follow each other when their parts do. -/
theorem Follows.bind {x : ExceptT ε Unsteady β} {y : ExceptT ε FileTree.Run β}
    {f : β → ExceptT ε Unsteady α} {g : β → ExceptT ε FileTree.Run α} (first : Follows x y)
    (next : ∀ value, Follows (f value) (g value))
    : Follows (x >>= f) (y >>= g) := by
  intro w steady
  obtain ⟨result, tree, still⟩ := first w steady
  rw [bind_apply, bind_apply]
  revert result tree still
  rcases x w with ⟨given, after⟩
  rcases y w.tree with ⟨given', after'⟩
  rintro rfl rfl still
  cases given with
  | error cause => exact ⟨rfl, rfl, still⟩
  | ok value => exact next value after still

/-- Handlers follow each other when they and their bodies do. -/
theorem Follows.tryCatch {x : ExceptT ε Unsteady α} {y : ExceptT ε FileTree.Run α}
    {handler : ε → ExceptT ε Unsteady α} {handler' : ε → ExceptT ε FileTree.Run α}
    (body : Follows x y) (handled : ∀ cause, Follows (handler cause) (handler' cause))
    : Follows (tryCatch x handler) (tryCatch y handler') := by
  intro w steady
  obtain ⟨result, tree, still⟩ := body w steady
  rw [tryCatch_apply, tryCatch_apply]
  revert result tree still
  rcases x w with ⟨given, after⟩
  rcases y w.tree with ⟨given', after'⟩
  rintro rfl rfl still
  cases given with
  | error cause => exact handled cause after still
  | ok value => exact ⟨rfl, rfl, still⟩

/-- An operation follows the tree's own where it does not slip. -/
theorem follows_onPath {operation : FileTree.Run (Except DiskFault α)}
    {spoiled : Nat → FileTree → FileTree}
    : Follows (Artifact.onPath path (attempt operation spoiled))
        (Artifact.onPath path operation) := by
  intro w steady
  rw [Artifact.onPath_apply, Artifact.onPath_apply]
  unfold attempt
  rw [steady]
  exact ⟨rfl, rfl, rfl⟩

/-- Saving does what it does to the tree. -/
theorem follows_save (path : String) (l : Ledger)
    : Follows (Artifact.save (m := Unsteady) path l) (Artifact.save (m := FileTree.Run) path l) := by
  unfold Artifact.save
  refine Follows.bind follows_onPath fun _ => Follows.bind follows_onPath fun place => ?_
  refine Follows.tryCatch ?_ fun cause => ?_
  · refine Follows.bind ?_ fun _ => follows_onPath
    unfold Artifact.fill
    exact Follows.bind follows_onPath fun _ => Follows.bind follows_onPath fun _ => follows_onPath
  · exact fun w steady => ⟨rfl, rfl, steady⟩

end

end Unsteady

end PerfLedger
