import PerfLedger.Proofs.Artifact.RoundTrip
import PerfLedger.Proofs.Artifact.Unsteady

/-! An update of an artifact happens as a whole or not at all, whatever goes wrong on disk. -/

namespace PerfLedger.Artifact

open FileTree Unsteady

variable {t prepared : FileTree} {path : String} {place : Place} {S : FileTree → Prop}

-----------------------------------------------------------------------------------------
-- The temporary file
-----------------------------------------------------------------------------------------

/-- A temporary file stands at a place, whatever is in it. -/
def Holds (prepared : FileTree) (place : Place) (tree : FileTree) : Prop :=
  ∃ mode bytes, tree = prepared.put place (.file mode bytes)

/-- A change of the temporary file leads to the changed file, or leaves some file there. -/
theorem leads_adjust {P Q : FileTree → Prop} {file : String} {change : Nat → ByteArray → FileNode}
    {spoiled : Nat → FileTree → FileTree} (below : place ≠ [])
    (shown : ∀ tree, Holds prepared place tree → S tree)
    (start : ∀ tree, P tree → ∃ mode bytes, tree = prepared.put place (.file mode bytes)
      ∧ Holds prepared place (prepared.put place (change mode bytes))
      ∧ Q (prepared.put place (change mode bytes)))
    (slips : ∀ progress mode bytes,
      Holds prepared place (spoiled progress (prepared.put place (.file mode bytes))))
    : Leads S P
        (onPath file (attempt (commit fun t => t.adjust place change) spoiled))
        (fun _ => Q) (fun _ => Holds prepared place) := by
  refine Leads.onPath ?_ ?_
  · intro tree holds progress
    obtain ⟨mode, bytes, rfl, -⟩ := start tree holds
    exact ⟨shown _ (slips progress mode bytes), slips progress mode bytes⟩
  · intro tree holds
    obtain ⟨mode, bytes, rfl, held, led⟩ := start tree holds
    rw [commit_ok (adjust_put prepared below mode bytes change)]
    exact ⟨shown _ held, led⟩

/-- Filling a temporary file leads to the whole text in it, and at a slip leaves some file. -/
theorem leads_fill (below : place ≠ []) (shown : ∀ tree, Holds prepared place tree → S tree)
    (text : String)
    : Leads S (Holds prepared place) (fill (m := Unsteady) place text)
        (fun _ tree => tree = prepared.put place (.file publicMode text.toUTF8))
        (fun _ => Holds prepared place) := by
  unfold fill
  refine Leads.bind (R := fun _ tree => ∃ bytes,
    tree = prepared.put place (.file publicMode bytes)) ?_ fun _ => Leads.bind
      (R := fun _ tree => tree = prepared.put place (.file publicMode text.toUTF8)) ?_ fun _ => ?_
  · refine leads_adjust below shown ?_ ?_
    · intro tree given
      obtain ⟨mode, bytes, rfl⟩ := given
      exact ⟨mode, bytes, rfl, ⟨_, _, rfl⟩, bytes, rfl⟩
    · exact fun _ mode bytes => ⟨mode, bytes, rfl⟩
  · refine leads_adjust below shown ?_ ?_
    · intro tree given
      obtain ⟨bytes, rfl⟩ := given
      exact ⟨publicMode, bytes, rfl, ⟨_, _, rfl⟩, rfl⟩
    · intro count mode bytes
      rw [writeSome, adjust_put prepared below]
      exact ⟨_, _, rfl⟩
  · refine leads_adjust below shown ?_ ?_
    · intro tree same
      subst same
      exact ⟨publicMode, text.toUTF8, rfl, ⟨_, _, rfl⟩, rfl⟩
    · exact fun _ mode bytes => ⟨mode, bytes, rfl⟩

-----------------------------------------------------------------------------------------
-- Saving
-----------------------------------------------------------------------------------------

/-- What may be seen of a path while a ledger is saved there: what was there before, or the
whole new artifact.
-/
def OldOrNew (t : FileTree) (path : String) (l : Ledger) (tree : FileTree) : Prop :=
  tree.entryAt path = t.entryAt path ∨ tree.entryAt path = some (fileOf l)

/-- Making some of the directories on the way to a path prepares it. -/
theorem prepared_makeSome (h : t.WellFormed) (forward : Forward (Path.steps path)) (count : Nat)
    : Prepared path t (makeSome (Path.directoryOf path) count t) := by
  unfold makeSome
  split
  next steps inside =>
    split
    next =>
      have near : steps.take count <+: wayTo path := by
        rw [wayTo, inside]
        exact List.take_prefix _ _
      have ahead := forward_stepsFromHome (forward_directoryOf forward) inside
      exact h.prepared_makeSteps (fun back => ahead (List.mem_of_mem_take back)) near
    next => exact h.prepared path
  next => exact h.prepared path

/-- The last part of saving: the temporary file is filled and becomes the artifact, or it is
discarded.
-/
theorem leads_replace {Ready Done : FileTree → Prop} {l : Ledger}
    (vacant : Vacant prepared path place) (ready : Ready prepared) (shown : S prepared)
    (filled : ∀ tree, Holds prepared place tree → S tree)
    (moved : ∀ target, Target prepared path target →
      S (prepared.put target (fileOf l)) ∧ Done (prepared.put target (fileOf l)))
    : Leads S (Holds prepared place)
        (tryCatch
          (do fill (m := Unsteady) place l.encode
              onPath path (Disk.moveTo (m := Unsteady) place path))
          (fun error => do
            let _ ← (Disk.discard (m := Unsteady) place : Unsteady _)
            throw error))
        (fun _ => Done) (fun _ => Ready) := by
  refine Leads.tryCatch (R := fun _ => Holds prepared place) ?_ fun cause => ?_
  · refine Leads.bind (leads_fill vacant.ne_nil filled l.encode) fun _ => ?_
    refine Leads.onPath ?_ ?_
    · intro tree same progress
      subst same
      exact ⟨filled _ ⟨_, _, rfl⟩, _, _, rfl⟩
    · intro tree same
      subst same
      rw [moveTo_apply]
      cases outcome : (prepared.put place (fileOf l)).moveTo place path with
      | error fault =>
          rw [commit_error outcome]
          exact ⟨filled _ ⟨_, _, rfl⟩, _, _, rfl⟩
      | ok after =>
          rw [commit_ok outcome]
          obtain ⟨target, movable, rfl⟩ := vacant.moveTo_put_iff.mp outcome
          exact moved target movable
  · refine Leads.discard ?_
    intro tree given
    obtain ⟨mode, bytes, rfl⟩ := given
    rw [erase_put prepared _ vacant.absent]
    exact ⟨shown, ready⟩

/-- Saving makes directories, fills a temporary file and moves it. So it leads where the trees
with directories made lead when the artifact is put at the target of the path, and to such a
tree when it fails.
-/
theorem leads_save_of {Ready Done : FileTree → Prop} {l : Ledger}
    (begun : ∀ count, Ready (makeSome (Path.directoryOf path) count t))
    (made : Ready (t.makeDirectories (Path.directoryOf path)).2)
    (shown : ∀ prepared, Ready prepared → S prepared)
    (filled : ∀ prepared place, Ready prepared → Vacant prepared path place →
      ∀ tree, Holds prepared place tree → S tree)
    (moved : ∀ prepared target, Ready prepared → Target prepared path target →
      S (prepared.put target (fileOf l)) ∧ Done (prepared.put target (fileOf l)))
    : Leads S (· = t) (save (m := Unsteady) path l) (fun _ => Done) (fun _ => Ready) := by
  unfold save
  refine Leads.bind (R := fun _ => Ready) ?_ fun _ => ?_
  · refine Leads.onPath ?_ ?_
    · intro tree same count
      subst same
      exact ⟨shown _ (begun count), begun count⟩
    · intro tree same
      subst same
      refine ⟨shown _ made, ?_⟩
      split <;> exact made
  refine Leads.bind (R := fun place tree => ∃ prepared, Ready prepared
    ∧ Vacant prepared path place ∧ Holds prepared place tree) ?_ fun place => ?_
  · refine Leads.onPath ?_ ?_
    · intro tree ready _
      exact ⟨shown _ ready, ready⟩
    · intro prepared ready
      cases found : prepared.freshPlace (Path.directoryOf path) path with
      | error fault =>
          rw [createTemporary_error found]
          exact ⟨shown _ ready, ready⟩
      | ok place =>
          rw [createTemporary_ok found]
          have vacant := vacant_of_freshPlace found
          exact ⟨filled _ _ ready vacant _ ⟨_, _, rfl⟩, prepared, ready, vacant, _, _, rfl⟩
  -- What is left to do starts from a prepared tree with a temporary file in it.
  · intro world given seen
    obtain ⟨prepared, ready, vacant, holds⟩ := given
    exact leads_replace vacant ready (shown _ ready) (filled _ _ ready vacant)
      (fun target => moved _ target ready) world holds seen

/-- Saving leads to the whole artifact. When it fails, only directories on the way to the path
are new, and the temporary file is gone.
-/
theorem leads_save (h : t.WellFormed) (forward : Forward (Path.steps path)) (l : Ledger)
    : Leads (OldOrNew t path l) (· = t) (save (m := Unsteady) path l)
        (fun _ tree => tree.entryAt path = some (fileOf l) ∧ tree.WellFormed)
        (fun _ tree => Prepared path t tree) := by
  have old (prepared : FileTree) (ready : Prepared path t prepared)
      : prepared.entryAt path = t.entryAt path :=
    ready.grown.entryAt_eq h ready.wellFormed forward
  refine leads_save_of (prepared_makeSome h forward) (h.prepared_makeDirectories forward)
    (fun prepared ready => .inl (old prepared ready)) ?_ ?_
  · intro prepared place ready vacant tree holds
    obtain ⟨mode, bytes, rfl⟩ := holds
    exact .inl ((vacant.entryAt_put ready.wellFormed forward mode bytes).trans
      (old prepared ready))
  · intro prepared target ready movable
    have new := movable.entryAt_put publicMode l.encode.toUTF8
    have formed := movable.wellFormed_put ready.wellFormed forward publicMode l.encode.toUTF8
    exact ⟨.inr new, new, formed⟩

-----------------------------------------------------------------------------------------
-- Updating
-----------------------------------------------------------------------------------------

section

variable {repoUrl : String} {ε α : Type} {change : Ledger → Except ε (α × Ledger)}

/-- The end of an update whose changed ledger is saved. -/
def savedAs (answer : α) : Except StorageError Unit × World → Except (UpdateError ε) α × World
  | (.ok _, after) => (.ok answer, after)
  | (.error cause, after) => (.error (.storage cause), after)

/-- An update saves the ledger that the change leads to. -/
theorem update_started {w : World} {l s : Ledger} {answer : α}
    (start : started path repoUrl (w.reads path) = .ok l)
    (changed : change l = .ok (answer, s))
    : update (m := Unsteady) path repoUrl change w
      = savedAs answer (save (m := Unsteady) path s w.looked) := by
  rw [update_apply, World.readFile_eq]
  dsimp only
  rw [start]
  dsimp only
  rw [changed]
  dsimp only
  rcases save (m := Unsteady) path s w.looked with ⟨cause | done, after⟩ <;> rfl

end

/-- An update is a transaction, whatever slips on the disk and at whatever point. When it
fails, what is at the path is what was there before, and no other file is left. When the
change is rejected, or there is no ledger to start from, or reading slips, nothing changes
at all; so a file without a ledger is never replaced. When the update succeeds, the whole
changed artifact is at the path. In between nothing else is ever seen there, and the tree
afterwards is one that the next update may start from.
-/
theorem update_transaction {ε α : Type} (h : t.WellFormed) (forward : Forward (Path.steps path))
    (repoUrl : String) (change : Ledger → Except ε (α × Ledger)) (slips : List (Option Nat))
    : let outcome := update (m := Unsteady) path repoUrl change ⟨t, slips, []⟩
      let result := outcome.1
      let after := outcome.2.tree
      after.WellFormed
      ∧ (∀ cause, result = .error cause →
        after.entryAt path = t.entryAt path ∧ Grown (· <+: wayTo path) t after)
      ∧ (∀ cause, result = .error (.rejected cause) → after = t)
      ∧ ((∀ l, ¬ StartsFrom t path repoUrl l) →
        after = t ∧ ∃ cause, result = .error (.storage cause))
      ∧ (∀ progress later, slips = some progress :: later →
        after = t ∧ result = .error (.storage (.io path .refused)))
      ∧ (∀ answer, result = .ok answer →
        ∃ l s, StartsFrom t path repoUrl l ∧ change l = .ok (answer, s)
          ∧ after.entryAt path = some (fileOf s))
      ∧ ∀ tree ∈ outcome.2.seen,
        tree.entryAt path = t.entryAt path
        ∨ ∃ l answer s, StartsFrom t path repoUrl l ∧ change l = .ok (answer, s)
          ∧ tree.entryAt path = some (fileOf s) := by
  have still : t.entryAt path = t.entryAt path ∧ Grown (· <+: wayTo path) t t :=
    ⟨rfl, .refl _ t⟩
  dsimp only
  rw [update_apply, World.readFile_eq]
  dsimp only
  -- Reading is the first operation, and the only one that slips before anything is known.
  by_cases slipped : slips.head?.join.isSome = true
  · have refused : World.reads ⟨t, slips, []⟩ path = .error .refused := if_pos slipped
    have failed : started path repoUrl (.error .refused) = .error (.io path .refused) := rfl
    rw [refused, failed]
    refine ⟨h, fun _ _ => still, nofun, fun _ => ⟨rfl, _, rfl⟩, fun _ _ _ => ⟨rfl, rfl⟩,
      nofun, ?_⟩
    exact fun tree member => .inl (by rw [List.mem_singleton.mp member])
  have reads : World.reads ⟨t, slips, []⟩ path = t.read path := if_neg slipped
  rw [reads]
  have notFirst (progress : Nat) (later : List (Option Nat))
      (first : slips = some progress :: later)
      : False :=
    slipped (by simp [first])
  cases start : started path repoUrl (t.read path) with
  | error cause =>
      refine ⟨h, fun _ _ => still, nofun, fun _ => ⟨rfl, _, rfl⟩,
        fun _ _ first => (notFirst _ _ first).elim, nofun, ?_⟩
      exact fun tree member => .inl (by rw [List.mem_singleton.mp member])
  | ok l =>
      have starts := started_eq_ok_iff.mp start
      dsimp only
      cases changed : change l with
      | error cause =>
          refine ⟨h, fun _ _ => still, fun _ _ => rfl,
            fun unstarted => (unstarted l starts).elim,
            fun _ _ first => (notFirst _ _ first).elim, nofun, ?_⟩
          exact fun tree member => .inl (by rw [List.mem_singleton.mp member])
      | ok answered =>
          obtain ⟨answer, s⟩ := answered
          obtain ⟨seen, led⟩ := leads_save h forward s (World.looked ⟨t, slips, []⟩) rfl
            (fun tree member => .inl (by rw [List.mem_singleton.mp member]))
          dsimp only
          revert seen led
          rcases save (m := Unsteady) path s (World.looked ⟨t, slips, []⟩)
            with ⟨cause | value, after⟩
          · intro seen ready
            have old := ready.grown.entryAt_eq h ready.wellFormed forward
            refine ⟨ready.wellFormed, fun _ _ => ⟨old, ready.grown⟩, nofun,
              fun unstarted => (unstarted l starts).elim,
              fun _ _ first => (notFirst _ _ first).elim, nofun, fun tree member => ?_⟩
            exact (seen tree member).imp_right fun new => ⟨l, answer, s, starts, changed, new⟩
          · intro seen led
            obtain ⟨new, formed⟩ := led
            refine ⟨formed, fun _ failed => (nomatch failed), fun _ failed => (nomatch failed),
              fun unstarted => (unstarted l starts).elim,
              fun _ _ first => (notFirst _ _ first).elim, ?_, fun tree member => ?_⟩
            · intro answer' same
              obtain rfl := Except.ok.inj same
              exact ⟨l, s, starts, changed, new⟩
            · exact (seen tree member).imp_right fun new => ⟨l, answer, s, starts, changed, new⟩

/-- An update of an artifact that holds an entry is cut off while the temporary file is written,
and nothing is left of it. The same update adds its entry when nothing slips.
-/
theorem update_transaction_interrupted
    : let held := Ledger.annotated [1] (.zero false) rfl
      let t := FileTree.empty.put ["data.js"] (fileOf held)
      let change (l : Ledger) := Prod.mk () <$> l.append "bench" (.annotated 2 (.zero false))
      let interrupted := update (m := Unsteady) "data.js" "other" change
        ⟨t, [none, none, none, none, some 3], []⟩
      let undisturbed := update (m := Unsteady) "data.js" "other" change ⟨t, [], []⟩
      interrupted.1 = .error (.storage (.io "/tmp/.tmp000000/.tmpxxxxxxxxxxxxxx" .refused))
      ∧ interrupted.2.tree.entryAt "data.js" = some (fileOf held)
      ∧ Grown (· <+: wayTo "data.js") t interrupted.2.tree
      ∧ undisturbed.1 = .ok ()
      ∧ undisturbed.2.tree.entryAt "data.js"
        = some (fileOf (.annotated [1, 2] (.zero false) rfl)) := by
  intro held t change
  have forward : Forward (Path.steps "data.js") := by decide
  have target : Target FileTree.empty "data.js" ["data.js"] := ⟨rfl, rfl, by decide⟩
  have found : t.entryAt "data.js" = some (fileOf held) := target.entryAt_put _ _
  have formed : t.WellFormed := target.wellFormed_put wellFormed_empty forward _ _
  have starts : StartsFrom t "data.js" "other" held :=
    .inr ⟨_, _, read_of_entryAt found, decodeText_toUTF8 _, (Ledger.valid_run _ _).decode_encode⟩
  have started := started_eq_ok_iff.mpr starts
  have changed : change held = .ok ((), .annotated [1, 2] (.zero false) rfl) := rfl
  have failed
      : (update (m := Unsteady) "data.js" "other" change
          ⟨t, [none, none, none, none, some 3], []⟩).1
        = .error (.storage (.io "/tmp/.tmp000000/.tmpxxxxxxxxxxxxxx" .refused)) := by
    have name : fullPath ".tmpxxxxxxxxxxxxxx" = "/tmp/.tmp000000/.tmpxxxxxxxxxxxxxx" := rfl
    rw [update_started (w := ⟨t, [none, none, none, none, some 3], []⟩) started changed, ← name]
    rfl
  have succeeded
      : (update (m := Unsteady) "data.js" "other" change ⟨t, [], []⟩).1 = .ok () := by
    rw [update_started (w := ⟨t, [], []⟩) started changed]
    rfl
  obtain ⟨-, unchanged, -⟩ := update_transaction formed forward "other" change
    [none, none, none, none, some 3]
  obtain ⟨-, -, -, -, -, saves, -⟩ := update_transaction formed forward "other" change []
  obtain ⟨kept, grown⟩ := unchanged _ failed
  obtain ⟨l, s, starts', changed', new⟩ := saves () succeeded
  obtain rfl : l = held :=
    Except.ok.inj ((started_eq_ok_iff.mpr starts').symm.trans started)
  obtain rfl := (Prod.mk.inj (Except.ok.inj (changed'.symm.trans changed))).2
  exact ⟨failed, kept.trans found, grown, succeeded, new⟩

end PerfLedger.Artifact
