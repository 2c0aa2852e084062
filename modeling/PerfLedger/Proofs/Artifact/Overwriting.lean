import PerfLedger.Proofs.Artifact.Transactions

/-! Saving over an artifact that is there. It does not matter where the path leads, nor whether
the tree is well-formed: the file that the path leads to is replaced, and every other file
stays where it is found, under all of its paths.
-/

namespace PerfLedger.Artifact

open FileTree Unsteady

variable {t t' prepared : FileTree} {path : String} {place target : Place} {mode : Nat}
  {bytes : ByteArray}

-----------------------------------------------------------------------------------------
-- What stays
-----------------------------------------------------------------------------------------

/-- Making directories keeps all nodes, up to any point. -/
theorem keeps_makeSome (path : String) (count : Nat) (t : FileTree)
    : Keeps t (makeSome path count t) := by
  unfold makeSome
  split
  next steps inside =>
    split
    next => exact (grown_makeSteps t [] (steps.take count)).kept
    next => exact fun _ _ there => there
  next => exact fun _ _ there => there

/-- A tree in which the artifact at a path was written over. What another path led to is still
there, unless it was the old artifact.
-/
structure Rewritten (t : FileTree) (path : String) (l : Ledger) (t' : FileTree) : Prop where
  found : t'.entryAt path = some (fileOf l)
  others : ∀ other node, t.entryAt other = some node →
    t'.entryAt other = some node ∨ t.entryAt path = some node

/-- The file at the target of a path is the one that was there before anything was made. -/
theorem node?_target (present : t.entryAt path = some (.file mode bytes))
    (keeps : Keeps t prepared) (movable : Target prepared path target)
    : t.locate path = .ok target ∧ t.node? target = some (.file mode bytes) := by
  unfold entryAt at present
  cases located : t.locate path with
  | error fault =>
      rw [find, located] at present
      contradiction
  | ok there =>
      obtain rfl := Except.ok.inj
        ((locate_mono (fun _ => keeps _ _) located).symm.trans movable.located)
      refine ⟨rfl, ?_⟩
      rw [find_of_locate located] at present
      split at present
      next _ _ held =>
        split at present
        · contradiction
        · rw [held, Option.some.inj present]
      next => cases present
      next => contradiction

/-- Putting an artifact at the target of its path replaces the old one and nothing else. -/
theorem rewritten_put (present : t.entryAt path = some (.file mode bytes))
    (keeps : Keeps t prepared) (movable : Target prepared path target) (l : Ledger)
    : Rewritten t path l (prepared.put target (fileOf l)) where
  found := movable.entryAt_put publicMode l.encode.toUTF8
  others := by
    obtain ⟨-, held⟩ := node?_target present keeps movable
    intro other node there
    unfold entryAt at there
    cases located : t.locate other with
    | error fault =>
        rw [find, located] at there
        contradiction
    | ok place =>
        have directories (place : Place) (first : t.node? place = some .directory)
            : (prepared.put target (fileOf l)).node? place = some .directory :=
          (covers_put prepared movable.free publicMode _).directories place (keeps _ _ first)
        have located' := locate_mono directories located
        rw [find_of_locate located] at there
        by_cases own : place = target
        · subst own
          rw [held] at there
          dsimp only at there
          split at there
          · contradiction
          · exact .inr (there ▸ present)
        · refine .inl ?_
          rw [entryAt, find_of_locate located', node?_put_of_ne prepared _ own]
          cases first : t.node? place with
          | none =>
              rw [first] at there
              contradiction
          | some node =>
              rw [keeps place node first, ← first]
              exact there

/-- Saving over an artifact leads to the whole new one, or keeps everything. -/
theorem leads_save_over (present : t.entryAt path = some (.file mode bytes)) (l : Ledger)
    : Leads (fun _ => True) (· = t) (save (m := Unsteady) path l)
        (fun _ => Rewritten t path l) (fun _ => Keeps t) :=
  leads_save_of (fun count => keeps_makeSome _ count t) (grown_makeDirectories t _).kept
    (fun _ _ => trivial) (fun _ _ _ _ _ _ => trivial)
    fun _ _ keeps movable => ⟨trivial, rewritten_put present keeps movable l⟩

end PerfLedger.Artifact
