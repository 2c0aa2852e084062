import PerfLedger.Artifact.Storage
import PerfLedger.Proofs.Disk.Temporaries

/-! What loading, saving and updating an artifact do to a tree of files. -/

namespace PerfLedger.Artifact

open FileTree

variable {t t' : FileTree} {path repoUrl : String} {l : Ledger}

/-- An operation on disk raises its fault to an error. -/
theorem onPath_apply {σ α : Type} [Disk (StateM σ)] (path : String)
    (operation : StateM σ (Except DiskFault α)) (s : σ)
    : (onPath path operation : ExceptT StorageError (StateM σ) α) s
      = ((operation s).1.mapError (StorageError.io path), (operation s).2) := by
  have lifted
      : (liftM operation : ExceptT StorageError (StateM σ) _) s
        = (.ok (operation s).1, (operation s).2) :=
    rfl
  rw [onPath, bind_apply, lifted]
  dsimp only
  cases (operation s).1 <;> rfl

-----------------------------------------------------------------------------------------
-- Loading
-----------------------------------------------------------------------------------------

/-- The ledger in what was read at a path. -/
def loaded (path : String) (read : Except DiskFault ByteArray) : Except StorageError Ledger :=
  match read >>= decodeText with
  | .error .missing => .error (.notFound path)
  | .error fault => .error (.io path fault)
  | .ok text =>
      match Ledger.decode text with
      | .ok l => .ok l
      | .error cause => .error (.undecodable path cause)

/-- Loading an artifact reads it once. -/
theorem load_apply {σ : Type} [Disk (StateM σ)] (path : String) (s : σ)
    : (load path : ExceptT StorageError (StateM σ) Ledger) s
      = (loaded path ((Disk.readFile path : StateM σ _) s).1,
          ((Disk.readFile path : StateM σ _) s).2) := by
  have read
      : (liftM (readText path : StateM σ _) : ExceptT StorageError (StateM σ) _) s
        = (.ok (((Disk.readFile path : StateM σ _) s).1 >>= decodeText),
            ((Disk.readFile path : StateM σ _) s).2) :=
    rfl
  rw [load, bind_apply, read]
  dsimp only
  unfold loaded
  cases ((Disk.readFile path : StateM σ _) s).1 >>= decodeText with
  | error fault => cases fault <;> rfl
  | ok text =>
      dsimp only
      cases Ledger.decode text <;> rfl

/-- The ledger that an update starts from, given what was read at its path. -/
def started (path repoUrl : String) (read : Except DiskFault ByteArray)
    : Except StorageError Ledger :=
  match loaded path read with
  | .error (.notFound _) => .ok (Ledger.new repoUrl)
  | other => other

/-- An update reads the artifact once, before it does anything else. -/
theorem loadOrNew_apply {σ : Type} [Disk (StateM σ)] (path repoUrl : String) (s : σ)
    : (loadOrNew path repoUrl : ExceptT StorageError (StateM σ) Ledger) s
      = (started path repoUrl ((Disk.readFile path : StateM σ _) s).1,
          ((Disk.readFile path : StateM σ _) s).2) := by
  rw [loadOrNew, tryCatch_apply, load_apply]
  unfold started
  cases loaded path ((Disk.readFile path : StateM σ _) s).1 with
  | error cause => cases cause <;> rfl
  | ok l => rfl

/-- Bytes hold a text or are refused; they are never missing. -/
theorem decodeText_cases (bytes : ByteArray)
    : decodeText bytes = .error .refused ∨ ∃ text, decodeText bytes = .ok text := by
  unfold decodeText
  cases String.fromUTF8? bytes with
  | none => exact .inl rfl
  | some text => exact .inr ⟨text, rfl⟩

theorem decodeText_toUTF8 (text : String) : decodeText text.toUTF8 = .ok text := by
  have known : String.fromUTF8? text.toUTF8 = some text := dif_pos text.isValidUTF8
  rw [decodeText, known]

/-- The ledger in a file is that in its text. -/
theorem loaded_text {bytes : ByteArray} {text : String} (h : decodeText bytes = .ok text)
    : loaded path (.ok bytes) = (Ledger.decode text).mapError (StorageError.undecodable path) := by
  have present : (Except.ok bytes >>= decodeText) = decodeText bytes := rfl
  rw [loaded, present, h]
  dsimp only
  cases Ledger.decode text <;> rfl

/-- Where there is a file, an update starts from the ledger in it. -/
theorem started_ok (path repoUrl : String) (bytes : ByteArray)
    : started path repoUrl (.ok bytes) = loaded path (.ok bytes) := by
  rcases decodeText_cases bytes with refused | ⟨text, h⟩
  · have present : (Except.ok bytes >>= decodeText) = decodeText bytes := rfl
    rw [started, loaded, present, refused]
  · rw [started, loaded_text h]
    cases Ledger.decode text <;> rfl

/-- An update of a tree starts from a ledger: a new one where there is nothing at the path, or
the one in the file there.
-/
def StartsFrom (t : FileTree) (path repoUrl : String) (l : Ledger) : Prop :=
  t.read path = .error .missing ∧ l = Ledger.new repoUrl
  ∨ ∃ bytes text, t.read path = .ok bytes ∧ decodeText bytes = .ok text
    ∧ Ledger.decode text = .ok l

/-- The ledger that an update reads is the one that it starts from. -/
theorem started_eq_ok_iff
    : started path repoUrl (t.read path) = .ok l ↔ StartsFrom t path repoUrl l := by
  unfold StartsFrom
  cases t.read path with
  | error fault =>
      have start
          : started path repoUrl (.error fault)
            = if fault = .missing then .ok (Ledger.new repoUrl) else .error (.io path fault) := by
        cases fault <;> rfl
      cases fault <;> simp [start, eq_comm]
  | ok bytes =>
      rw [started_ok]
      rcases decodeText_cases bytes with refused | ⟨text, h⟩
      · have present : (Except.ok bytes >>= decodeText) = decodeText bytes := rfl
        rw [loaded, present, refused]
        simp [refused]
      · rw [loaded_text h]
        cases decoded : Ledger.decode text <;> simp [h, decoded, Except.mapError]

-----------------------------------------------------------------------------------------
-- Saving
-----------------------------------------------------------------------------------------

/-- Filling a temporary file leaves it with the whole text, for everybody to read. -/
theorem fill_apply (t : FileTree) {place : Place} (below : place ≠ []) (mode : Nat)
    (bytes : ByteArray) (text : String)
    : (fill (m := FileTree.Run) place text) (t.put place (.file mode bytes))
      = (.ok (), t.put place (.file publicMode text.toUTF8)) := by
  have change (mode : Nat) (bytes : ByteArray) (next : Nat → ByteArray → FileNode)
      : commit (fun t => t.adjust place next) (t.put place (.file mode bytes))
        = (.ok (), t.put place (next mode bytes)) :=
    commit_ok (adjust_put t below mode bytes next)
  have setMode : (Disk.setMode (m := FileTree.Run) place publicMode) _ = _ :=
    change mode bytes _
  have write : (Disk.write (m := FileTree.Run) place text.toUTF8) _ = _ :=
    change publicMode bytes _
  have sync : (Disk.sync (m := FileTree.Run) place) _ = _ :=
    change publicMode text.toUTF8 _
  unfold fill
  rw [bind_apply, onPath_apply, setMode]
  dsimp only [Except.mapError]
  rw [bind_apply, onPath_apply, write]
  dsimp only [Except.mapError]
  rw [onPath_apply, sync]
  rfl

/-- The file that a ledger is saved in. -/
abbrev fileOf (l : Ledger) : FileNode := .file publicMode l.encode.toUTF8

/-- What saving a ledger leads to, step by step: the directories are made, a fresh place is
found there, and the whole artifact is moved from it to the end of the path.
-/
def saved (t : FileTree) (path : String) (l : Ledger) : Except StorageError Unit × FileTree :=
  match t.makeDirectories (Path.directoryOf path) with
  | (.error fault, t) => (.error (.io (Path.directoryOf path) fault), t)
  | (.ok _, t) =>
      match t.freshPlace (Path.directoryOf path) path with
      | .error fault => (.error (.io (Path.directoryOf path) fault), t)
      | .ok place =>
          match (t.put place (fileOf l)).moveTo place path with
          | .error fault => (.error (.io path fault), t)
          | .ok t => (.ok (), t)

/-- The temporary file is left behind neither by success nor by failure. -/
theorem save_apply (t : FileTree) (path : String) (l : Ledger)
    : (save (m := FileTree.Run) path l) t = saved t path l := by
  have make (t : FileTree)
      : (Disk.makeDirectories (Path.directoryOf path) : FileTree.Run _) t
        = t.makeDirectories (Path.directoryOf path) :=
    rfl
  unfold save saved
  rw [bind_apply, onPath_apply, make]
  rcases t.makeDirectories (Path.directoryOf path) with ⟨fault | made, t⟩
  · rfl
  dsimp only [Except.mapError]
  rw [bind_apply, onPath_apply]
  cases found : t.freshPlace (Path.directoryOf path) path with
  | error fault =>
      rw [createTemporary_error found]
      rfl
  | ok place =>
      have vacant := vacant_of_freshPlace found
      rw [createTemporary_ok found]
      dsimp only [Except.mapError]
      rw [tryCatch_apply, bind_apply, fill_apply t vacant.ne_nil]
      dsimp only
      rw [onPath_apply, moveTo_apply]
      cases moved : (t.put place (fileOf l)).moveTo place path with
      | ok t' =>
          rw [commit_ok moved]
          rfl
      | error fault =>
          have erased := erase_put t (fileOf l) vacant.absent
          rw [commit_error moved]
          change (Except.error (StorageError.io path fault),
            (t.put place (fileOf l)).erase place) = _
          rw [erased]

/-- Where an artifact can be saved: the directories above can be made, a temporary file has
room there, and it can be moved to the end of the path.
-/
structure Savable (t : FileTree) (path : String) (prepared : FileTree) (target : Place)
    : Prop where
  made : t.makeDirectories (Path.directoryOf path) = (.ok (), prepared)
  room : ∃ place, prepared.freshPlace (Path.directoryOf path) path = .ok place
  target : Target prepared path target

/-- Saving where it can be done puts the whole artifact at the end of the path. -/
theorem Savable.save_apply {prepared : FileTree} {target : Place}
    (h : Savable t path prepared target) (l : Ledger)
    : (save (m := FileTree.Run) path l) t
      = (.ok (), prepared.put target (fileOf l)) := by
  obtain ⟨place, found⟩ := h.room
  have moved
      : (prepared.put place (fileOf l)).moveTo place path = .ok (prepared.put target (fileOf l)) :=
    (vacant_of_freshPlace found).moveTo_put_iff.mpr ⟨target, h.target, rfl⟩
  rw [Artifact.save_apply, saved, h.made]
  dsimp only
  rw [found]
  dsimp only
  rw [moved]

/-- Saving elsewhere fails, and only makes directories. -/
theorem save_apply_of_not_savable (h : ∀ prepared target, ¬ Savable t path prepared target)
    (l : Ledger)
    : ∃ cause, (save (m := FileTree.Run) path l) t
        = (.error cause, (t.makeDirectories (Path.directoryOf path)).2) := by
  rw [save_apply, saved]
  cases made : t.makeDirectories (Path.directoryOf path) with
  | mk answer prepared =>
      cases answer with
      | error fault => exact ⟨_, rfl⟩
      | ok answer =>
          dsimp only
          cases found : prepared.freshPlace (Path.directoryOf path) path with
          | error fault => exact ⟨_, rfl⟩
          | ok place =>
              dsimp only
              split
              next fault => exact ⟨_, rfl⟩
              next after moved =>
                obtain ⟨target, movable, -⟩ :=
                  (vacant_of_freshPlace found).moveTo_put_iff.mp moved
                exact absurd ⟨made, ⟨place, found⟩, movable⟩ (h prepared target)

-----------------------------------------------------------------------------------------
-- Saving again
-----------------------------------------------------------------------------------------

/-- A temporary file has room in every tree with the same directories or more. -/
theorem freshPlace_mono {directory : String}
    (more : ∀ place, t.node? place = some .directory → t'.node? place = some .directory)
    (room : ∃ place, t.freshPlace directory path = .ok place)
    : ∃ place, t'.freshPlace directory path = .ok place := by
  obtain ⟨place, found⟩ := room
  unfold freshPlace at found ⊢
  dsimp only at found ⊢
  split at found
  next => contradiction
  next short =>
    rw [if_neg short]
    obtain ⟨parent, located, found⟩ := bind_eq_ok.mp found
    split at found
    next there =>
      refine ⟨parent ++ [freshName (Path.steps path ++ t'.nodes.flatMap Prod.fst)],
        bind_eq_ok.mpr ⟨parent, locate_mono more located, ?_⟩⟩
      rw [more parent there]
    next => contradiction

/-- Where an artifact was saved, it can be saved again. -/
theorem Savable.again {prepared : FileTree} {target : Place}
    (h : Savable t path prepared target) (l : Ledger)
    : Savable (prepared.put target (fileOf l)) path (prepared.put target (fileOf l)) target := by
  have covers := covers_put prepared h.target.free publicMode l.encode.toUTF8
  refine ⟨makeDirectories_again h.made covers, freshPlace_mono covers.directories h.room,
    h.target.mayEnd, locate_mono covers.directories h.target.located, ?_⟩
  have below : target ≠ [] := by
    intro same
    subst same
    exact h.target.free rfl
  rw [node?_put_self _ _ below]
  simp

/-- Where saving failed, it fails again. -/
theorem not_savable_again (h : ∀ prepared target, ¬ Savable t path prepared target)
    (prepared : FileTree) (target : Place)
    : ¬ Savable (t.makeDirectories (Path.directoryOf path)).2 path prepared target := by
  intro savable
  have again
      : (t.makeDirectories (Path.directoryOf path)).2.makeDirectories (Path.directoryOf path)
        = t.makeDirectories (Path.directoryOf path) :=
    makeDirectories_again rfl (.refl _)
  exact h prepared target ⟨again.symm.trans savable.made, savable.room, savable.target⟩

-----------------------------------------------------------------------------------------
-- Updating
-----------------------------------------------------------------------------------------

/-- What an update does, step by step. -/
theorem update_apply {σ ε α : Type} [Disk (StateM σ)] (path repoUrl : String)
    (change : Ledger → Except ε (α × Ledger)) (s : σ)
    : (update path repoUrl change : ExceptT (UpdateError ε) (StateM σ) α) s
      = match (Disk.readFile path : StateM σ _) s with
        | (found, s) =>
            match started path repoUrl found with
            | .error cause => (.error (.storage cause), s)
            | .ok l =>
                match change l with
                | .error cause => (.error (.rejected cause), s)
                | .ok (answer, l) =>
                    match (save path l : ExceptT StorageError (StateM σ) Unit) s with
                    | (.ok _, s) => (.ok answer, s)
                    | (.error cause, s) => (.error (.storage cause), s) := by
  unfold update
  rw [bind_apply, adapt_apply, loadOrNew_apply]
  rcases (Disk.readFile path : StateM σ _) s with ⟨found, s⟩
  dsimp only
  cases started path repoUrl found with
  | error cause => rfl
  | ok l =>
      dsimp only [Except.mapError]
      cases change l with
      | error cause => rfl
      | ok changed =>
          obtain ⟨answer, l⟩ := changed
          dsimp only
          rw [bind_apply, adapt_apply]
          rcases (save path l : ExceptT StorageError (StateM σ) Unit) s with ⟨cause | value, s⟩
            <;> rfl

end PerfLedger.Artifact
