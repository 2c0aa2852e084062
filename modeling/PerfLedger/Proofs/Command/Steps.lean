import PerfLedger.Command.Execution
import PerfLedger.Proofs.Artifact.Transactions

/-! What the commands do, step by step, on a disk on which anything may slip. They read first,
and what they read decides whether anything is written.
-/

namespace PerfLedger

open FileTree Unsteady

-----------------------------------------------------------------------------------------
-- Ends
-----------------------------------------------------------------------------------------

/-- How a run ends whose command came to a result. -/
def Ending.ofResult : Except CommandError Outcome → Ending
  | .ok outcome => .finished outcome
  | .error cause => .failed cause

/-- What a run shows on its standard output. -/
def Ending.output : Ending → String
  | .finished outcome => outcome.output
  | .notUnderstood .helpWanted => usageText
  | .notUnderstood .versionWanted => versionText ++ "\n"
  | _ => ""

-----------------------------------------------------------------------------------------
-- Artifacts
-----------------------------------------------------------------------------------------

namespace Artifact

variable {path repoUrl : String} {ε α : Type} {change : Ledger → Except ε (α × Ledger)}

/-- An error is a fault of the disk. -/
def IsFault (cause : StorageError) : Prop := ∃ place fault, cause = .io place fault

/-- An operation fails with a fault of the disk only. -/
theorem leads_fault {operation : FileTree.Run (Except DiskFault α)}
    {spoiled : Nat → FileTree → FileTree}
    : Leads (fun _ => True) (fun _ => True) (onPath path (attempt operation spoiled))
        (fun _ _ => True) (fun cause _ => IsFault cause) := by
  refine Leads.onPath ?_ ?_
  · exact fun _ _ _ => ⟨trivial, _, _, rfl⟩
  · intro tree _
    refine ⟨trivial, ?_⟩
    split
    · trivial
    · exact ⟨_, _, rfl⟩

/-- Saving fails with a fault of the disk only. -/
theorem leads_save_fault (path : String) (l : Ledger)
    : Leads (fun _ => True) (fun _ => True) (save (m := Unsteady) path l)
        (fun _ _ => True) (fun cause _ => IsFault cause) := by
  unfold save
  refine Leads.bind (R := fun _ _ => True) leads_fault fun _ => ?_
  refine Leads.bind (R := fun _ _ => True) leads_fault fun place => ?_
  refine Leads.tryCatch (R := fun cause _ => IsFault cause) ?_ fun cause => ?_
  · refine Leads.bind (R := fun _ _ => True) ?_ fun _ => leads_fault
    unfold fill
    exact Leads.bind (R := fun _ _ => True) leads_fault fun _ =>
      Leads.bind (R := fun _ _ => True) leads_fault fun _ => leads_fault
  · exact Leads.discard fun _ fault => ⟨trivial, fault⟩

/-- Why an update of a tree fails before anything is written. -/
inductive Unwritten (t : FileTree) (path repoUrl : String)
    (change : Ledger → Except ε (α × Ledger)) : UpdateError ε → Prop where
  | unread (fault : DiskFault) : Unwritten t path repoUrl change (.storage (.io path fault))
  | undecodable {bytes : ByteArray} {text : String} {cause : DecodeError}
      : t.read path = .ok bytes → decodeText bytes = .ok text →
        Ledger.decode text = .error cause →
        Unwritten t path repoUrl change (.storage (.undecodable path cause))
  | rejected {l : Ledger} {cause : ε}
      : StartsFrom t path repoUrl l → change l = .error cause →
        Unwritten t path repoUrl change (.rejected cause)

/-- A ledger that is read for an update is the one that it starts from. -/
theorem startsFrom_of_started {w : World} {l : Ledger}
    (start : started path repoUrl (w.reads path) = .ok l)
    : StartsFrom w.tree path repoUrl l := by
  unfold World.reads at start
  split at start
  · contradiction
  · exact started_eq_ok_iff.mp start

/-- What cannot be read, or holds no ledger, is why an update writes nothing. -/
theorem unwritten_of_started {w : World} {cause : StorageError}
    (failed : started path repoUrl (w.reads path) = .error cause)
    : Unwritten w.tree path repoUrl change (.storage cause) := by
  cases found : w.reads path with
  | error fault =>
      rw [found] at failed
      cases fault with
      | missing => contradiction
      | unnamable => exact Except.error.inj failed ▸ .unread _
      | refused => exact Except.error.inj failed ▸ .unread _
  | ok bytes =>
      rw [found, started_ok] at failed
      rcases decodeText_cases bytes with refused | ⟨text, decoded⟩
      · have present : (Except.ok bytes >>= decodeText) = decodeText bytes := rfl
        rw [loaded, present, refused] at failed
        exact Except.error.inj failed ▸ .unread _
      · rw [loaded_text decoded] at failed
        cases holds : Ledger.decode text with
        | ok l =>
            rw [holds] at failed
            contradiction
        | error refusal =>
            rw [holds] at failed
            exact Except.error.inj failed
              ▸ .undecodable (World.read_of_reads found) decoded holds

/-- An update fails before anything is written, or the changed ledger is saved. -/
theorem update_cases (path repoUrl : String) (change : Ledger → Except ε (α × Ledger))
    (w : World)
    : (∃ cause, update (m := Unsteady) path repoUrl change w = (.error cause, w.looked)
        ∧ Unwritten w.tree path repoUrl change cause)
      ∨ ∃ l answer s, StartsFrom w.tree path repoUrl l ∧ change l = .ok (answer, s)
          ∧ update (m := Unsteady) path repoUrl change w
            = savedAs answer (save (m := Unsteady) path s w.looked) := by
  cases start : started path repoUrl (w.reads path) with
  | error cause =>
      refine .inl ⟨.storage cause, ?_, unwritten_of_started start⟩
      rw [update_apply, World.readFile_eq]
      dsimp only
      rw [start]
  | ok l =>
      have starts := startsFrom_of_started start
      cases changed : change l with
      | error cause =>
          refine .inl ⟨.rejected cause, ?_, .rejected starts changed⟩
          rw [update_apply, World.readFile_eq]
          dsimp only
          rw [start]
          dsimp only
          rw [changed]
      | ok answered =>
          exact .inr ⟨l, answered.1, answered.2, starts, changed,
            update_started start changed⟩

end Artifact

-----------------------------------------------------------------------------------------
-- Commands
-----------------------------------------------------------------------------------------

namespace Command

open Artifact

variable {w : World} {s : Settings}

/-- The entry in what was read of a file. -/
def entryIn (path : String) (read : Except DiskFault ByteArray) : Except CommandError Entry :=
  match read >>= decodeText with
  | .error fault => .error (.unreadableEntry path fault)
  | .ok text => (Entry.decode text).mapError (.badEntry path)

theorem readEntry_apply (path : String) (w : World)
    : readEntry (m := Unsteady) path w = (entryIn path (w.reads path), w.looked) := by
  have look
      : (liftM (readText path : Unsteady _) : ExceptT CommandError Unsteady _) w
        = (.ok (w.reads path >>= decodeText), w.looked) := by
    change (Except.ok (((Disk.readFile path : Unsteady _) w).1 >>= decodeText),
      ((Disk.readFile path : Unsteady _) w).2) = _
    rw [World.readFile_eq]
  rw [readEntry, bind_apply, look]
  unfold entryIn
  dsimp only
  cases w.reads path >>= decodeText with
  | error fault => rfl
  | ok text =>
      dsimp only
      cases Entry.decode text <;> rfl

/-- A policy is checked without a look at the world. -/
theorem checkPolicy_apply (p : Policy) (w : World)
    : checkPolicy (m := Unsteady) p w = (p.validate.mapError CommandError.badPolicy, w) := by
  unfold checkPolicy
  cases p.validate <;> rfl

/-- What an append finds before it opens the artifact: the entry that it will record, or why it
stops.
-/
def opening (s : Settings) (o : AppendOptions) (w : World) : Except CommandError Entry :=
  match entryIn o.entry (w.reads o.entry) with
  | .error cause => .error cause
  | .ok entry =>
      match s.policy.validate with
      | .error cause => .error (.badPolicy cause)
      | .ok _ =>
          if (o.repoUrl.or s.repoUrl).isNone && !(w.tree.entryAt (dataPath s o.data)).isSome then
            .error (.noArtifact (dataPath s o.data))
          else .ok entry

/-- The tool whose series an append adds to. -/
def toolFor (o : AppendOptions) (entry : Entry) : String := o.tool.getD entry.tool

/-- Where an append records its entry, and the change that it makes there. -/
def updating (s : Settings) (o : AppendOptions) (entry : Entry)
    : ExceptT (UpdateError AppendError) Unsteady Report :=
  Artifact.update (dataPath s o.data) ((o.repoUrl.or s.repoUrl).getD "")
    (judgeAndAppend s o (toolFor o entry) entry)

/-- The end of an append that recorded its entry. -/
def recorded (colors : Bool) (s : Settings) (o : AppendOptions) (report : Report) : Outcome where
  output := if o.skipDetect then "" else showReport colors o.json s.policy report
  hasFailure := o.failOnAlert && !(report.failures s.policy).isEmpty

/-- The failure of a command whose update fails. -/
def notUpdated (entry : Entry) : UpdateError AppendError → CommandError
  | .storage cause => .storage cause
  | .rejected cause => .notAppended entry.commit.shortId cause

@[simp]
theorem execute_init (colors : Bool) (s : Settings) (o : InitOptions)
    : execute (m := Unsteady) colors s (.init o) = runInit s o :=
  rfl

@[simp]
theorem execute_append (colors : Bool) (s : Settings) (o : AppendOptions)
    : execute (m := Unsteady) colors s (.append o) = runAppend colors s o :=
  rfl

@[simp]
theorem execute_detect (colors : Bool) (s : Settings) (o : DetectOptions)
    : execute (m := Unsteady) colors s (.detect o) = runDetect colors s o :=
  rfl

/-- An append reads its entry, and then updates the artifact. -/
theorem runAppend_apply (colors : Bool) (s : Settings) (o : AppendOptions) (w : World)
    : runAppend (m := Unsteady) colors s o w
      = match opening s o w with
        | .error cause => (.error cause, w.looked)
        | .ok entry =>
            ((((updating s o entry w.looked).1).mapError (notUpdated entry)).map
                (recorded colors s o),
              (updating s o entry w.looked).2) := by
  unfold runAppend
  rw [bind_apply, readEntry_apply]
  unfold opening
  cases entryIn o.entry (w.reads o.entry) with
  | error cause => rfl
  | ok entry =>
      dsimp only
      rw [bind_apply, checkPolicy_apply]
      cases s.policy.validate with
      | error cause => rfl
      | ok _ =>
          dsimp only [Except.mapError]
          rw [bind_apply, World.isPresent_eq, World.looked_tree]
          dsimp only
          cases (o.repoUrl.or s.repoUrl).isNone && !(w.tree.entryAt (dataPath s o.data)).isSome with
          | true => rfl
          | false =>
              rw [if_neg Bool.false_ne_true, if_neg Bool.false_ne_true, bind_apply, adapt_apply]
              dsimp only
              unfold updating toolFor
              rcases update (m := Unsteady) (dataPath s o.data) _ _ w.looked
                with ⟨(cause | cause) | report, after⟩ <;> rfl

/-- A detection reads its entry and then the artifact, and writes nothing. -/
theorem runDetect_apply (colors : Bool) (s : Settings) (o : DetectOptions) (w : World)
    : runDetect (m := Unsteady) colors s o w
      = match entryIn o.entry (w.reads o.entry) with
        | .error cause => (.error cause, w.looked)
        | .ok entry =>
            match s.policy.validate with
            | .error cause => (.error (.badPolicy cause), w.looked)
            | .ok _ =>
                (((loaded (dataPath s o.data) (w.looked.reads (dataPath s o.data))).mapError
                      CommandError.storage).map
                    fun l => .quiet (showReport colors o.json s.policy
                      (l.analyze entry.tool entry s.policy)),
                  w.looked.looked) := by
  unfold runDetect
  rw [bind_apply, readEntry_apply]
  cases entryIn o.entry (w.reads o.entry) with
  | error cause => rfl
  | ok entry =>
      dsimp only
      rw [bind_apply, checkPolicy_apply]
      cases s.policy.validate with
      | error cause => rfl
      | ok _ =>
          dsimp only [Except.mapError]
          rw [bind_apply, adapt_apply, load_apply, World.readFile_eq]
          cases loaded (dataPath s o.data) (w.looked.reads (dataPath s o.data)) <;> rfl

/-- A computation only looks at the tree of files. -/
def Looks {α : Type} (x : Unsteady α) : Prop := ∀ w : World, (x w).2.tree = w.tree

section

variable {ε α β : Type}

theorem Looks.bind {x : Unsteady β} {f : β → Unsteady α} (first : Looks x)
    (next : ∀ value, Looks (f value))
    : Looks (x >>= f) :=
  fun w => (next (x w).1 (x w).2).trans (first w)

theorem Looks.bindExcept {x : ExceptT ε Unsteady β} {f : β → ExceptT ε Unsteady α}
    (first : Looks x) (next : ∀ value, Looks (f value))
    : Looks (x >>= f : ExceptT ε Unsteady α) := by
  intro w
  have start := first w
  rw [bind_apply]
  revert start
  rcases x w with ⟨cause | value, after⟩
  · exact id
  · exact fun start => (next value after).trans start

theorem Looks.lift {x : Unsteady α} (h : Looks x)
    : Looks (liftM x : ExceptT ε Unsteady α) :=
  h

theorem looks_pure (value : α) : Looks (pure value : Unsteady α) := fun _ => rfl

theorem looks_readText (path : String) : Looks (readText path) := by
  intro w
  change ((Disk.readFile path : Unsteady _) w).2.tree = w.tree
  rw [World.readFile_eq]
  rfl

theorem looks_load (path : String) : Looks (Artifact.load (m := Unsteady) path) := by
  intro w
  rw [load_apply, World.readFile_eq]
  rfl

end

/-- The file of variables is only read. -/
theorem looks_extendEnvironment (environment : Environment)
    : Looks (Settings.extendEnvironment (m := Unsteady) environment) := by
  unfold Settings.extendEnvironment
  refine Looks.bindExcept (Looks.lift fun _ => rfl) fun found => ?_
  split
  · exact looks_pure _
  · refine Looks.bindExcept (Looks.lift (looks_readText _)) fun text => ?_
    split
    · exact looks_pure _
    · split <;> exact looks_pure _

/-- A configuration file is only read. -/
theorem looks_fileText (path : String) : Looks (Settings.fileText? (m := Unsteady) path) := by
  have locate : Looks (Settings.locate? (m := Unsteady) path) := by
    unfold Settings.locate?
    refine Looks.bind (fun _ => rfl) fun full => Looks.bind (fun _ => rfl) fun there => ?_
    split
    · exact looks_pure _
    · split
      · exact looks_pure _
      · refine Looks.bind (fun _ => rfl) fun there => ?_
        split <;> exact looks_pure _
  unfold Settings.fileText?
  refine Looks.bind locate fun found => ?_
  split
  · exact looks_pure _
  · split
    · exact looks_pure _
    · exact Looks.bind (looks_readText _) fun text => looks_pure _

/-- Settings are loaded without a change of the tree. -/
theorem looks_settings (named : Option String) (environment : Environment)
    : Looks (Settings.load (m := Unsteady) named environment) := by
  unfold Settings.load
  refine Looks.bindExcept (looks_extendEnvironment _) fun environment =>
    Looks.bindExcept ?_ fun file => ?_
  · unfold Settings.readFile
    refine Looks.bindExcept (Looks.lift (looks_fileText _)) fun text => ?_
    split
    · split <;> exact looks_pure _
    · split <;> exact looks_pure _
  · split <;> exact looks_pure _

/-- Commands that show something write nothing. -/
theorem looks_detect (colors : Bool) (s : Settings) (o : DetectOptions)
    : Looks (runDetect (m := Unsteady) colors s o) := by
  intro w
  rw [runDetect_apply]
  cases entryIn o.entry (w.reads o.entry) with
  | error cause => rfl
  | ok entry =>
      dsimp only
      cases s.policy.validate <;> rfl

theorem looks_series (s : Settings) (o : SeriesOptions)
    : Looks (runSeries (m := Unsteady) s o) := by
  unfold runSeries
  refine Looks.bindExcept (looks_load _) fun l => ?_
  dsimp only
  split
  · exact looks_pure _
  · split <;> exact looks_pure _

theorem looks_status (colors : Bool) (s : Settings) (o : StatusOptions)
    : Looks (runStatus (m := Unsteady) colors s o) := by
  unfold runStatus
  exact Looks.bindExcept (looks_load _) fun l => looks_pure _

/-- The start of an artifact, given whether there is one already. -/
theorem runInit_apply (s : Settings) (o : InitOptions) (w : World)
    : runInit (m := Unsteady) s o w
      = match o.repoUrl.or s.repoUrl with
        | none => (.error .urlRequired, w)
        | some repoUrl =>
            if (w.tree.entryAt (dataPath s o.data)).isSome && !o.force then
              (.error (.storage (.alreadyExists (dataPath s o.data))), w)
            else
              match save (m := Unsteady) (dataPath s o.data) (Ledger.new repoUrl) w with
              | (.error cause, after) => (.error (.storage cause), after)
              | (.ok _, after) =>
                  (.ok (.quiet ("Initialized " ++ dataPath s o.data ++ " for " ++ repoUrl
                    ++ "\n")), after) := by
  unfold runInit
  cases o.repoUrl.or s.repoUrl with
  | none => rfl
  | some repoUrl =>
      dsimp only
      rw [bind_apply, adapt_apply]
      unfold Artifact.init
      rw [bind_apply, World.isPresent_eq]
      dsimp only
      cases (w.tree.entryAt (dataPath s o.data)).isSome && !o.force with
      | true => rfl
      | false =>
          rw [if_neg Bool.false_ne_true, if_neg Bool.false_ne_true, bind_apply]
          rcases save (m := Unsteady) (dataPath s o.data) (Ledger.new repoUrl) w
            with ⟨cause | done, after⟩ <;> rfl

end Command

-----------------------------------------------------------------------------------------
-- Whole runs
-----------------------------------------------------------------------------------------

/-- A run reads its arguments, loads its settings and executes its command. -/
theorem run_apply (colors : Bool) (environment : Environment) (arguments : List String)
    (w : World)
    : run (m := Unsteady) colors environment arguments w
      = match Invocation.ofArguments arguments with
        | .error cause => (.notUnderstood cause, w)
        | .ok invocation =>
            match Settings.load (m := Unsteady) invocation.config environment w with
            | (.error cause, after) => (.failed (.settings cause), after)
            | (.ok s, after) =>
                (Ending.ofResult (invocation.command.execute (m := Unsteady) colors s after).1,
                  (invocation.command.execute (m := Unsteady) colors s after).2) := by
  unfold run
  cases Invocation.ofArguments arguments with
  | error cause => rfl
  | ok invocation =>
      let command : ExceptT CommandError Unsteady Outcome := do
        let s ← (Settings.load invocation.config environment).adapt .settings
        invocation.command.execute colors s
      have ended
          : (do match ← command.run with
              | .ok outcome => return .finished outcome
              | .error cause => return .failed cause : Unsteady Ending) w
            = (Ending.ofResult (command w).1, (command w).2) := by
        change (match (command w).1 with
          | .ok outcome => (return .finished outcome : Unsteady Ending)
          | .error cause => return .failed cause) (command w).2 = _
        cases (command w).1 <;> rfl
      have executed := bind_apply
        ((Settings.load (m := Unsteady) invocation.config environment).adapt .settings)
        (invocation.command.execute colors) w
      have ran : command w = _ := executed
      dsimp only
      refine ended.trans ?_
      rw [ran, adapt_apply]
      rcases Settings.load (m := Unsteady) invocation.config environment w with ⟨cause | s, after⟩
        <;> rfl

end PerfLedger
