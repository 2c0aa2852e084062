import PerfLedger.Proofs.Artifact.RoundTrip
import PerfLedger.Proofs.Artifact.Saving
import PerfLedger.Proofs.Ledger.Runs

/-! Updates of an artifact, one after the other, lead to the same text as the additions of
those that succeed, made to one ledger in memory.
-/

namespace PerfLedger

-----------------------------------------------------------------------------------------
-- Additions in memory
-----------------------------------------------------------------------------------------

namespace Ledger

/-- Adds entries one after the other, each to the series of a tool. The first refused one ends
the run.
-/
def appendEach (l : Ledger) (items : List (String × MadeEntry)) : Except AppendError Ledger :=
  items.foldlM (fun l item => l.append item.1 item.2.val) l

theorem appendEach_append (l : Ledger) (first second : List (String × MadeEntry))
    : l.appendEach (first ++ second)
      = (l.appendEach first >>= fun next => next.appendEach second) :=
  List.foldlM_append

theorem Valid.appendEach {l s : Ledger} {items : List (String × MadeEntry)} (h : l.Valid)
    (added : l.appendEach items = .ok s)
    : s.Valid :=
  foldlM_invariant Valid (fun item _ _ _ valid grown => valid.append item.2.2.valid grown) h added

/-- Ledgers that are the same without signs take the same entries, and are the same without
signs afterwards.
-/
theorem appendEach_congr {l m : Ledger} (same : l.unsigned = m.unsigned)
    (items : List (String × MadeEntry))
    : unsigned <$> l.appendEach items = unsigned <$> m.appendEach items := by
  induction items generalizing l m with
  | nil => exact congrArg Except.ok same
  | cons item items ih =>
      have step
          : unsigned <$> l.append item.1 item.2.val = unsigned <$> m.append item.1 item.2.val := by
        rw [← append_unsigned, ← append_unsigned, same]
      unfold appendEach
      rw [List.foldlM_cons, List.foldlM_cons]
      cases left : l.append item.1 item.2.val with
      | error cause =>
          cases right : m.append item.1 item.2.val with
          | error other =>
              rw [left, right] at step
              exact congrArg Except.error (Except.error.inj step)
          | ok next =>
              rw [left, right] at step
              contradiction
      | ok next =>
          cases right : m.append item.1 item.2.val with
          | error other =>
              rw [left, right] at step
              contradiction
          | ok other =>
              rw [left, right] at step
              exact ih (Except.ok.inj step)

end Ledger

namespace Artifact

open FileTree

variable {t : FileTree} {path : String}

-----------------------------------------------------------------------------------------
-- Runs of updates
-----------------------------------------------------------------------------------------

/-- Entries to be added by one update, which starts a new ledger for a repository if there is
none yet.
-/
structure Batch where
  repoUrl : String
  items : List (String × MadeEntry)

/-- Adds the entries of a batch. -/
def Batch.change (b : Batch) (l : Ledger) : Except AppendError (Unit × Ledger) :=
  Prod.mk () <$> l.appendEach b.items

/-- Updates an artifact with one batch after the other, and tells which of them succeeded. -/
def updateEach (path : String) : List Batch → FileTree → List Batch × FileTree
  | [], t => ([], t)
  | b :: batches, t =>
      match (update path b.repoUrl b.change : ExceptT _ FileTree.Run Unit) t with
      | (.ok _, t) => (b :: (updateEach path batches t).1, (updateEach path batches t).2)
      | (.error _, t) => updateEach path batches t

/-- The batches that are accepted one after the other in memory, from a ledger or from none. -/
def acceptEach : Option Ledger → List Batch → List Batch
  | _, [] => []
  | start, b :: batches =>
      match (start.getD (Ledger.new b.repoUrl)).appendEach b.items with
      | .ok s => b :: acceptEach (some s) batches
      | .error _ => acceptEach start batches

/-- A path holds a ledger, or nothing is there. -/
def Begins (t : FileTree) (path : String) : Option Ledger → Prop
  | none => t.read path = .error .missing
  | some l => ∃ bytes text, t.read path = .ok bytes ∧ decodeText bytes = .ok text
      ∧ Ledger.decode text = .ok l

-----------------------------------------------------------------------------------------
-- One update
-----------------------------------------------------------------------------------------

/-- A path holds a ledger by value, or nothing is there. -/
def Shows (t : FileTree) (path : String) (now : Option Ledger) : Prop :=
  (∀ s ∈ now, s.Valid)
  ∧ ∃ held, Begins t path held ∧ held.map Ledger.unsigned = now.map Ledger.unsigned

/-- Ledgers in order that are the same without signs have the same text. -/
theorem fileOf_congr {l m : Ledger} (hl : l.Valid) (hm : m.Valid)
    (same : l.unsigned = m.unsigned)
    : fileOf l = fileOf m := by
  have text : l.encode = m.encode := by
    rw [← hl.encode_unsigned, same, hm.encode_unsigned]
  rw [fileOf, fileOf, text]

/-- The file of a ledger in order is read back as the ledger without signs. -/
theorem begins_of_entryAt {s : Ledger} (h : s.Valid) (found : t.entryAt path = some (fileOf s))
    : Begins t path (some s.unsigned) :=
  ⟨s.encode.toUTF8, s.encode, read_of_entryAt found, decodeText_toUTF8 _, h.decode_encode⟩

theorem shows_of_entryAt {s : Ledger} (h : s.Valid) (found : t.entryAt path = some (fileOf s))
    : Shows t path (some s) := by
  refine ⟨fun other same => Option.some.inj same ▸ h, _, begins_of_entryAt h found, ?_⟩
  exact congrArg some s.unsigned_unsigned

/-- What a path holds is shown there. -/
theorem Begins.shows {start : Option Ledger} (h : Begins t path start) : Shows t path start := by
  refine ⟨fun s present => ?_, start, h, rfl⟩
  obtain rfl := Option.mem_def.mp present
  obtain ⟨_, _, _, _, decoded⟩ := h
  exact Ledger.valid_of_decode decoded

/-- An update starts from what a path shows. -/
theorem Shows.started {now : Option Ledger} (h : Shows t path now) (repoUrl : String)
    : (now.getD (Ledger.new repoUrl)).Valid
      ∧ ∃ l, started path repoUrl (t.read path) = .ok l ∧ l.Valid
        ∧ l.unsigned = (now.getD (Ledger.new repoUrl)).unsigned := by
  obtain ⟨valid, held, begins, same⟩ := h
  cases now with
  | none =>
      obtain rfl := Option.map_eq_none_iff.mp same
      have fresh := Ledger.valid_new repoUrl
      exact ⟨fresh, _, started_eq_ok_iff.mpr (.inl ⟨begins, rfl⟩), fresh, rfl⟩
  | some s =>
      obtain ⟨l, rfl, equal⟩ := Option.map_eq_some_iff.mp same
      obtain ⟨bytes, text, read, decoded, holds⟩ := begins
      exact ⟨valid s rfl, l,
        started_eq_ok_iff.mpr (.inr ⟨bytes, text, read, decoded, holds⟩),
        Ledger.valid_of_decode holds, equal⟩

/-- A batch that is accepted in memory is saved where that can be done. -/
theorem Shows.update_accepted {prepared : FileTree} {target : Place} {now : Option Ledger}
    (h : Shows t path now) (savable : Savable t path prepared target) (b : Batch) {s : Ledger}
    (accepted : (now.getD (Ledger.new b.repoUrl)).appendEach b.items = .ok s)
    : s.Valid
      ∧ (update path b.repoUrl b.change : ExceptT _ FileTree.Run Unit) t
        = (.ok (), prepared.put target (fileOf s)) := by
  -- What is on disk has lost its signs, so it follows the ledger in memory only up to them.
  obtain ⟨valid, l, starts, valid', same⟩ := h.started b.repoUrl
  have congr := Ledger.appendEach_congr same b.items
  rw [accepted] at congr
  obtain ⟨s', added, same'⟩ := map_eq_ok.mp congr
  have grown := valid.appendEach accepted
  have changed : b.change l = .ok ((), s') := by rw [Batch.change, added]; rfl
  have readFile : (Disk.readFile path : FileTree.Run _) t = (t.read path, t) := rfl
  refine ⟨grown, ?_⟩
  rw [update_apply, readFile]
  dsimp only
  rw [starts]
  dsimp only
  rw [changed]
  dsimp only
  rw [savable.save_apply, fileOf_congr (valid'.appendEach added) grown same']

/-- A batch that is rejected in memory changes nothing. -/
theorem Shows.update_rejected {now : Option Ledger} (h : Shows t path now) (b : Batch)
    {cause : AppendError}
    (rejected : (now.getD (Ledger.new b.repoUrl)).appendEach b.items = .error cause)
    : (update path b.repoUrl b.change : ExceptT _ FileTree.Run Unit) t
      = (.error (.rejected cause), t) := by
  obtain ⟨-, l, starts, -, same⟩ := h.started b.repoUrl
  have congr := Ledger.appendEach_congr same b.items
  have readFile : (Disk.readFile path : FileTree.Run _) t = (t.read path, t) := rfl
  rw [rejected] at congr
  cases added : l.appendEach b.items with
  | ok s =>
      rw [added] at congr
      contradiction
  | error other =>
      rw [added] at congr
      obtain rfl := Except.error.inj congr
      have changed : b.change l = .error other := by rw [Batch.change, added]; rfl
      rw [update_apply, readFile]
      dsimp only
      rw [starts]
      dsimp only
      rw [changed]

/-- Where nothing can be saved, an update fails and at most makes directories. -/
theorem update_not_savable (h : ∀ prepared target, ¬ Savable t path prepared target)
    {ε α : Type} (repoUrl : String) (change : Ledger → Except ε (α × Ledger))
    : ∃ cause t', (update path repoUrl change : ExceptT _ FileTree.Run α) t = (.error cause, t')
      ∧ (t' = t ∨ t' = (t.makeDirectories (Path.directoryOf path)).2) := by
  have readFile : (Disk.readFile path : FileTree.Run _) t = (t.read path, t) := rfl
  rw [update_apply, readFile]
  dsimp only
  cases started path repoUrl (t.read path) with
  | error cause => exact ⟨_, t, rfl, .inl rfl⟩
  | ok l =>
      dsimp only
      cases change l with
      | error cause => exact ⟨_, t, rfl, .inl rfl⟩
      | ok changed =>
          obtain ⟨answer, s⟩ := changed
          obtain ⟨cause, failed⟩ := save_apply_of_not_savable h s
          dsimp only
          rw [failed]
          exact ⟨_, _, rfl, .inr rfl⟩

-----------------------------------------------------------------------------------------
-- Many updates
-----------------------------------------------------------------------------------------

/-- What some batches leave of a tree that showed a ledger: the file with all of their entries
added, or the tree itself if there were no batches.
-/
def Adds (path : String) (t : FileTree) (now : Option Ledger) (done : List Batch)
    (after : FileTree)
    : Prop :=
  match done with
  | [] => after = t
  | first :: rest =>
      ∃ s, (now.getD (Ledger.new first.repoUrl)).appendEach ((first :: rest).flatMap Batch.items)
          = .ok s
        ∧ s.Valid ∧ after.entryAt path = some (fileOf s)

/-- Where it can be saved, updates succeed exactly when memory accepts their batches, and lead
to the file of the ledger in memory. By induction on the batches, every one of which is added
to what the last one left.
-/
theorem updateEach_savable {prepared : FileTree} {target : Place} {now : Option Ledger}
    (savable : Savable t path prepared target) (shows : Shows t path now)
    (batches : List Batch)
    : (updateEach path batches t).1 = acceptEach now batches
      ∧ Adds path t now (acceptEach now batches) (updateEach path batches t).2 := by
  induction batches generalizing t prepared now with
  | nil => exact ⟨rfl, rfl⟩
  | cons b batches ih =>
      unfold updateEach acceptEach
      cases added : (now.getD (Ledger.new b.repoUrl)).appendEach b.items with
      | error cause =>
          rw [shows.update_rejected b added]
          exact ih savable shows
      | ok s =>
          obtain ⟨valid, updated⟩ := shows.update_accepted savable b added
          have found := savable.target.entryAt_put publicMode s.encode.toUTF8
          obtain ⟨same, later⟩ := ih (savable.again s) (shows_of_entryAt valid found)
          rw [updated]
          dsimp only
          rw [same]
          refine ⟨rfl, ?_⟩
          dsimp only [Adds]
          rw [List.flatMap_cons, Ledger.appendEach_append, added]
          cases rest : acceptEach (some s) batches with
          | nil =>
              rw [rest] at later
              have last : (updateEach path batches (prepared.put target (fileOf s))).2 = _ := later
              exact ⟨s, rfl, valid, last.symm ▸ found⟩
          | cons first rest' =>
              rw [rest] at later
              exact later

/-- Where nothing can be saved, no update succeeds, and at most directories are made. -/
theorem updateEach_not_savable (h : ∀ prepared target, ¬ Savable t path prepared target)
    (batches : List Batch)
    : (updateEach path batches t).1 = []
      ∧ ((updateEach path batches t).2 = t
        ∨ (updateEach path batches t).2 = (t.makeDirectories (Path.directoryOf path)).2) := by
  induction batches generalizing t with
  | nil => exact ⟨rfl, .inl rfl⟩
  | cons b batches ih =>
      obtain ⟨cause, t', failed, left⟩ := update_not_savable h b.repoUrl b.change
      unfold updateEach
      rw [failed]
      dsimp only
      rcases left with rfl | rfl
      · exact ih h
      -- The directories are there now, so the next update stops where this one did.
      · obtain ⟨nothing, later⟩ := ih (not_savable_again h)
        have again
            : (t.makeDirectories (Path.directoryOf path)).2.makeDirectories (Path.directoryOf path)
              = t.makeDirectories (Path.directoryOf path) :=
          makeDirectories_again rfl (.refl _)
        rw [again, or_self] at later
        exact ⟨nothing, .inr later⟩

-----------------------------------------------------------------------------------------
-- Other ways to the same text
-----------------------------------------------------------------------------------------

/-- Batches are accepted if all of their entries are. -/
theorem acceptEach_some {l s : Ledger} {batches : List Batch}
    (added : l.appendEach (batches.flatMap Batch.items) = .ok s)
    : acceptEach (some l) batches = batches := by
  induction batches generalizing l with
  | nil => rfl
  | cons b batches ih =>
      rw [List.flatMap_cons, Ledger.appendEach_append] at added
      obtain ⟨next, first, rest⟩ := bind_eq_ok.mp added
      unfold acceptEach
      rw [Option.getD_some, first]
      exact congrArg (b :: ·) (ih rest)

/-- Batches are accepted if all of their entries are, from where the first of them starts. -/
theorem acceptEach_of_appendEach {now : Option Ledger} {s : Ledger} {first : Batch}
    {rest : List Batch}
    (added : (now.getD (Ledger.new first.repoUrl)).appendEach
      ((first :: rest).flatMap Batch.items) = .ok s)
    : acceptEach now (first :: rest) = first :: rest := by
  rw [List.flatMap_cons, Ledger.appendEach_append] at added
  obtain ⟨next, accepted, later⟩ := bind_eq_ok.mp added
  unfold acceptEach
  rw [accepted]
  exact congrArg (first :: ·) (acceptEach_some later)

/-- A file at a path is still one after an update. -/
theorem read_update {bytes : ByteArray} (present : t.read path = .ok bytes) (b : Batch)
    : ∃ bytes', ((update path b.repoUrl b.change : ExceptT _ FileTree.Run Unit) t).2.read path
        = .ok bytes' := by
  have readFile : (Disk.readFile path : FileTree.Run _) t = (t.read path, t) := rfl
  by_cases possible : ∃ prepared target, Savable t path prepared target
  · obtain ⟨prepared, target, savable⟩ := possible
    rw [update_apply, readFile]
    dsimp only
    cases started path b.repoUrl (t.read path) with
    | error cause => exact ⟨bytes, present⟩
    | ok l =>
        dsimp only
        cases b.change l with
        | error cause => exact ⟨bytes, present⟩
        | ok changed =>
            obtain ⟨answer, s⟩ := changed
            have found := savable.target.entryAt_put publicMode s.encode.toUTF8
            dsimp only
            rw [savable.save_apply]
            exact ⟨_, read_of_entryAt found⟩
  · have impossible (prepared : FileTree) (target : Place)
        : ¬ Savable t path prepared target :=
      fun savable => possible ⟨prepared, target, savable⟩
    obtain ⟨cause, t', failed, left⟩ := update_not_savable impossible b.repoUrl b.change
    rw [failed]
    rcases left with rfl | rfl
    · exact ⟨bytes, present⟩
    · obtain ⟨mode, found⟩ := entryAt_of_read present
      have grown := grown_makeDirectories t (Path.directoryOf path)
      exact ⟨bytes, read_of_entryAt (grown.entryAt_of_some found)⟩

/-- Where there is a file, it does not matter for which repositories updates would start anew. -/
theorem updateEach_map {rename : Batch → Batch} (same : ∀ b, (rename b).items = b.items)
    {bytes : ByteArray} (present : t.read path = .ok bytes) (batches : List Batch)
    : updateEach path (batches.map rename) t
      = ((updateEach path batches t).1.map rename, (updateEach path batches t).2) := by
  induction batches generalizing t bytes with
  | nil => rfl
  | cons b batches ih =>
      have readFile : (Disk.readFile path : FileTree.Run _) t = (t.read path, t) := rfl
      have change : (rename b).change = b.change := by
        funext l
        rw [Batch.change, Batch.change, same]
      have updated
          : (update path (rename b).repoUrl (rename b).change : ExceptT _ FileTree.Run Unit) t
            = (update path b.repoUrl b.change : ExceptT _ FileTree.Run Unit) t := by
        rw [change, update_apply, update_apply, readFile]
        dsimp only
        rw [present, started_ok, started_ok]
      obtain ⟨bytes', present'⟩ := read_update present b
      rw [List.map_cons, updateEach, updated, updateEach]
      revert present'
      rcases (update path b.repoUrl b.change : ExceptT _ FileTree.Run Unit) t
        with ⟨cause | answer, after⟩
      · exact fun present' => ih present'
      · intro present'
        dsimp only
        rw [ih present']
        rfl

/-- A ledger with added entries is loaded from the file that they lead to. -/
theorem Adds.load {now : Option Ledger} {after : FileTree} {first : Batch} {rest : List Batch}
    (h : Adds path t now (first :: rest) after)
    : ∃ s back, (now.getD (Ledger.new first.repoUrl)).appendEach
          ((first :: rest).flatMap Batch.items) = .ok s
      ∧ after.entryAt path = some (fileOf s)
      ∧ (load path : ExceptT _ FileTree.Run _) after = (.ok back, after)
      ∧ back.same s = true := by
  obtain ⟨s, added, valid, found⟩ := h
  have readFile : (Disk.readFile path : FileTree.Run _) after = (after.read path, after) := rfl
  have valid' := Ledger.valid_of_decode valid.decode_encode
  refine ⟨s, s.unsigned, added, found, ?_,
    (Ledger.same_iff_unsigned valid' valid).mpr s.unsigned_unsigned⟩
  rw [load_apply, readFile]
  dsimp only
  rw [read_of_entryAt found, loaded_text (decodeText_toUTF8 _), valid.decode_encode]
  rfl

/-- The same entries in other batches lead to the same file, where it can be saved. -/
theorem Adds.regroup {prepared : FileTree} {target : Place} {now : Option Ledger}
    {after : FileTree} {done : List Batch} (h : Adds path t now done after)
    (savable : Savable t path prepared target) (shows : Shows t path now) (nonempty : done ≠ [])
    {first : Batch} {rest : List Batch}
    (same : (first :: rest).flatMap Batch.items = done.flatMap Batch.items)
    (fresh : now = none → done.head?.map Batch.repoUrl = some first.repoUrl)
    : (updateEach path (first :: rest) t).1 = first :: rest
      ∧ (updateEach path (first :: rest) t).2.entryAt path = after.entryAt path := by
  obtain ⟨head, tail, rfl⟩ := List.exists_cons_of_ne_nil nonempty
  obtain ⟨s, added, -, found⟩ := h
  have start : now.getD (Ledger.new head.repoUrl) = now.getD (Ledger.new first.repoUrl) := by
    cases now with
    | none => exact congrArg Ledger.new (Option.some.inj (fresh rfl))
    | some l => rfl
  rw [← same, start] at added
  obtain ⟨accepted, added'⟩ := updateEach_savable savable shows (first :: rest)
  rw [acceptEach_of_appendEach added] at accepted added'
  obtain ⟨s', again, -, found'⟩ := added'
  rw [added] at again
  exact ⟨accepted, by rw [found, found', Except.ok.inj again]⟩

/-- Making directories on the way to a path changes no file, and nothing at the end of the path
if there is a file or it leads forward.
-/
theorem unchanged_makeDirectories {start : Option Ledger} (begins : Begins t path start)
    : (∀ place mode bytes,
        (t.makeDirectories (Path.directoryOf path)).2.node? place = some (.file mode bytes)
        ↔ t.node? place = some (.file mode bytes))
      ∧ (start ≠ none ∨ t.WellFormed ∧ Forward (Path.steps path) →
        (t.makeDirectories (Path.directoryOf path)).2.entryAt path = t.entryAt path) := by
  have grown := grown_makeDirectories t (Path.directoryOf path)
  refine ⟨fun place mode bytes => grown.file_iff, ?_⟩
  intro given
  rcases given with present | ⟨formed, forward⟩
  · obtain ⟨l, rfl⟩ := Option.ne_none_iff_exists'.mp present
    obtain ⟨bytes, _, read, _⟩ := begins
    obtain ⟨mode, found⟩ := entryAt_of_read read
    rw [found, grown.entryAt_of_some found]
  · have ready := formed.prepared_makeDirectories forward
    exact ready.grown.entryAt_eq formed ready.wellFormed forward

-----------------------------------------------------------------------------------------
-- Refinement
-----------------------------------------------------------------------------------------

/-- Updates on disk refine additions in memory. Start with a path that holds a ledger, or with
nothing there, and update it with any batches. If none succeeds, all files are as before.
Otherwise the file is that of the ledger in memory with the entries of the batches that
succeeded, and that ledger is loaded from it. On a disk where anything succeeds, these are
the batches that memory accepts. The same entries in other batches lead to the same file,
and once there is a file it does not matter which repositories the batches name.

A path that leads through a missing directory and back may start to lead somewhere when only
the directory is made. So a path without a file stays without one if it leads forward.
-/
theorem updateEach_refines {start : Option Ledger} (begins : Begins t path start)
    (batches : List Batch)
    : let done := (updateEach path batches t).1
      let after := (updateEach path batches t).2
      (done = [] →
        (∀ place mode bytes, after.node? place = some (.file mode bytes)
          ↔ t.node? place = some (.file mode bytes))
        ∧ (start ≠ none ∨ t.WellFormed ∧ Forward (Path.steps path) →
          after.entryAt path = t.entryAt path))
      ∧ (∀ first rest, done = first :: rest →
        ∃ s back, (start.getD (Ledger.new first.repoUrl)).appendEach (done.flatMap Batch.items)
            = .ok s
          ∧ after.entryAt path = some (fileOf s)
          ∧ (load path : ExceptT _ FileTree.Run _) after = (.ok back, after)
          ∧ back.same s = true)
      ∧ (done = [] ∨ done = acceptEach start batches)
      ∧ (∀ first rest, done ≠ [] →
        (first :: rest).flatMap Batch.items = done.flatMap Batch.items →
        (start = none → done.head?.map Batch.repoUrl = some first.repoUrl) →
        (updateEach path (first :: rest) t).1 = first :: rest
        ∧ (updateEach path (first :: rest) t).2.entryAt path = after.entryAt path)
      ∧ (start ≠ none → ∀ repoUrl : Batch → String,
        (updateEach path (batches.map fun b => { b with repoUrl := repoUrl b }) t).2
          = after) := by
  have renamed (present : start ≠ none) (repoUrl : Batch → String)
      : (updateEach path (batches.map fun b => { b with repoUrl := repoUrl b }) t).2
        = (updateEach path batches t).2 := by
    obtain ⟨l, rfl⟩ := Option.ne_none_iff_exists'.mp present
    obtain ⟨bytes, _, read, _⟩ := begins
    let rename (b : Batch) : Batch := { b with repoUrl := repoUrl b }
    have same (b : Batch) : (rename b).items = b.items := rfl
    have mapped := congrArg Prod.snd (updateEach_map same read batches)
    exact mapped
  by_cases possible : ∃ prepared target, Savable t path prepared target
  · obtain ⟨prepared, target, savable⟩ := possible
    obtain ⟨accepted, adds⟩ := updateEach_savable savable begins.shows batches
    rw [← accepted] at adds
    refine ⟨fun nothing => ?_, fun first rest shape => ?_, .inr accepted, ?_, renamed⟩
    · rw [nothing] at adds
      have same : (updateEach path batches t).2 = t := adds
      exact ⟨fun _ _ _ => by rw [same], fun _ => by rw [same]⟩
    · rw [shape] at adds ⊢
      exact adds.load
    · intro first rest nonempty same fresh
      exact adds.regroup savable begins.shows nonempty same fresh
  · have impossible (prepared : FileTree) (target : Place)
        : ¬ Savable t path prepared target :=
      fun savable => possible ⟨prepared, target, savable⟩
    obtain ⟨nothing, left⟩ := updateEach_not_savable impossible batches
    refine ⟨fun _ => ?_, fun first rest shape => ?_, .inl nothing, ?_, renamed⟩
    · rcases left with same | same
      · exact ⟨fun _ _ _ => by rw [same], fun _ => by rw [same]⟩
      · rw [same]
        exact unchanged_makeDirectories begins
    · rw [nothing] at shape
      contradiction
    · exact fun _ _ nonempty => absurd nothing nonempty

/-- A batch with one entry for each commit of a repeated digit. -/
def Batch.annotated (repoUrl : String) (digits : List (Fin 10)) : Batch where
  repoUrl := repoUrl
  items := digits.map fun digit =>
    ("bench", .annotated digit (.zero false) (Double.isFiniteNonnegative_zero false))

/-- Of three updates the second is rejected after it has added an entry, since its other entry is
of a commit that the first has added. The file holds what the first and the third have added, and
one update with the entries of both would lead to it.
-/
theorem updateEach_refines_rejected
    : let batches : List Batch :=
        [.annotated "first" [0], .annotated "second" [1, 0], .annotated "third" [2]]
      let outcome := updateEach "data.js" batches FileTree.empty
      let both : Batch := .annotated "first" [0, 2]
      outcome.1 = [.annotated "first" [0], .annotated "third" [2]]
      ∧ (∃ s back, (Ledger.new "first").appendEach both.items = .ok s
        ∧ s.size = 2
        ∧ outcome.2.entryAt "data.js" = some (fileOf s)
        ∧ (load "data.js" : ExceptT _ FileTree.Run _) outcome.2 = (.ok back, outcome.2)
        ∧ back.same s = true)
      ∧ (updateEach "data.js" [both] FileTree.empty).1 = [both]
      ∧ (updateEach "data.js" [both] FileTree.empty).2.entryAt "data.js"
        = outcome.2.entryAt "data.js" := by
  intro batches outcome both
  have missing : Begins FileTree.empty "data.js" none := rfl
  have savable : Savable FileTree.empty "data.js" FileTree.empty ["data.js"] :=
    ⟨rfl, ⟨_, rfl⟩, rfl, rfl, by decide⟩
  have accepted
      : acceptEach none batches = [.annotated "first" [0], .annotated "third" [2]] :=
    rfl
  have done : outcome.1 = [.annotated "first" [0], .annotated "third" [2]] :=
    (updateEach_savable savable missing.shows batches).1.trans accepted
  obtain ⟨-, led, -, regrouped, -⟩ := updateEach_refines missing batches
  obtain ⟨s, back, added, found, loads, same⟩ := led _ _ done
  rw [done] at added regrouped
  obtain ⟨again, equal⟩ := regrouped both [] (List.cons_ne_nil _ _) rfl fun _ => rfl
  obtain rfl := Except.ok.inj added
  exact ⟨done, ⟨_, back, rfl, rfl, found, loads, same⟩, again, equal⟩

end Artifact

end PerfLedger
