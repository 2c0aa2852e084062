import PerfLedger.Proofs.Command.Steps
import PerfLedger.Proofs.Detection.History
import PerfLedger.Proofs.Detection.Verdicts

/-! Recording an entry from the command line: either it fails, shows nothing and leaves the
artifact as it is, or the artifact has one entry more and the exit status tells whether that
entry is a regression that counts.
-/

namespace PerfLedger.Command

open FileTree Unsteady Artifact

variable {t : FileTree} {s : Settings} {o : AppendOptions} {w : World} {entry : Entry}

-----------------------------------------------------------------------------------------
-- What the files hold
-----------------------------------------------------------------------------------------

/-- A path leads to a text. -/
def HoldsText (t : FileTree) (path text : String) : Prop :=
  ∃ bytes, t.read path = .ok bytes ∧ decodeText bytes = .ok text

/-- A path leads to a document with an entry. -/
def HoldsEntry (t : FileTree) (path : String) (entry : Entry) : Prop :=
  ∃ text, HoldsText t path text ∧ Entry.decode text = .ok entry

/-- A path leads to an artifact with a ledger. -/
def HoldsLedger (t : FileTree) (path : String) (l : Ledger) : Prop :=
  ∃ text, HoldsText t path text ∧ Ledger.decode text = .ok l

/-- The history that an append finds: the ledger in the artifact, or where there is none a new
one for the repository given by an option, else by the settings.
-/
def Finds (t : FileTree) (s : Settings) (o : AppendOptions) (old : Ledger) : Prop :=
  HoldsLedger t (dataPath s o.data) old
  ∨ t.read (dataPath s o.data) = .error .missing
    ∧ ∃ repoUrl, o.repoUrl.or s.repoUrl = some repoUrl ∧ old = Ledger.new repoUrl

/-- Why an append fails. -/
inductive AppendFailure (t : FileTree) (s : Settings) (o : AppendOptions)
    : CommandError → Prop where
  | unreadableEntry (fault : DiskFault) : AppendFailure t s o (.unreadableEntry o.entry fault)
  | badEntry {text : String} {cause : DecodeError}
      : HoldsText t o.entry text → Entry.decode text = .error cause →
        AppendFailure t s o (.badEntry o.entry cause)
  | noArtifact
      : o.repoUrl.or s.repoUrl = none → t.entryAt (dataPath s o.data) = none →
        AppendFailure t s o (.noArtifact (dataPath s o.data))
  | fault (place : String) (fault : DiskFault) : AppendFailure t s o (.storage (.io place fault))
  | undecodable {text : String} {cause : DecodeError}
      : HoldsText t (dataPath s o.data) text → Ledger.decode text = .error cause →
        AppendFailure t s o (.storage (.undecodable (dataPath s o.data) cause))
  | toolMismatch {entry : Entry}
      : HoldsEntry t o.entry entry → entry.tool ≠ toolFor o entry →
        AppendFailure t s o
          (.notAppended entry.commit.shortId (.toolMismatch (toolFor o entry) entry.tool))
  | duplicateCommit {entry : Entry} {old : Ledger}
      : HoldsEntry t o.entry entry → Finds t s o old →
        old.hasCommit (toolFor o entry) entry.commit.id = true →
        AppendFailure t s o
          (.notAppended entry.commit.shortId
            (.duplicateCommit (toolFor o entry) entry.commit.id))

/-- What is there is more than missing. -/
theorem read_ne_missing {path : String} (present : (t.entryAt path).isSome = true)
    : t.read path ≠ .error .missing := by
  unfold entryAt at present
  unfold FileTree.read
  cases found : t.find path with
  | error fault =>
      rw [found] at present
      contradiction
  | ok node => cases node <;> nofun

-----------------------------------------------------------------------------------------
-- Before the artifact is opened
-----------------------------------------------------------------------------------------

/-- Looking for an entry in a file finds no text, or what the text in it is read as. -/
theorem entryIn_cases (w : World) (path : String)
    : (∃ fault, entryIn path (w.reads path) = .error (.unreadableEntry path fault))
      ∨ ∃ text, HoldsText w.tree path text
          ∧ entryIn path (w.reads path) = (Entry.decode text).mapError (.badEntry path) := by
  unfold entryIn
  cases found : w.reads path >>= decodeText with
  | error fault => exact .inl ⟨fault, rfl⟩
  | ok text =>
      obtain ⟨bytes, read, decoded⟩ := bind_eq_ok.mp found
      exact .inr ⟨text, ⟨bytes, World.read_of_reads read, decoded⟩, rfl⟩

/-- An entry that is read from a file is in it. -/
theorem holdsEntry_of_entryIn {path : String} (found : entryIn path (w.reads path) = .ok entry)
    : HoldsEntry w.tree path entry := by
  rcases entryIn_cases w path with ⟨fault, failed⟩ | ⟨text, holds, same⟩
  · rw [failed] at found
    contradiction
  · rw [same] at found
    cases document : Entry.decode text with
    | error cause =>
        rw [document] at found
        contradiction
    | ok other =>
        rw [document] at found
        exact ⟨text, holds, document.trans (congrArg _ (Except.ok.inj found))⟩

/-- Where nothing slips, the entry in a file is read from it. -/
theorem entryIn_of_holdsEntry {path : String} (steady : w.slips = [])
    (holds : HoldsEntry w.tree path entry)
    : entryIn path (w.reads path) = .ok entry := by
  obtain ⟨text, ⟨bytes, read, decoded⟩, document⟩ := holds
  have found : (w.reads path >>= decodeText) = .ok text := by
    rw [World.reads, steady]
    exact bind_eq_ok.mpr ⟨bytes, read, decoded⟩
  rw [entryIn, found]
  dsimp only
  rw [document]
  rfl

/-- The document of an entry in order holds that entry without signs. -/
theorem holdsEntry_of_entryAt {path : String} {mode : Nat} (valid : entry.Valid)
    (found : t.entryAt path = some (.file mode entry.encode.toUTF8))
    : HoldsEntry t path entry.unsigned :=
  ⟨entry.encode, ⟨_, read_of_entryAt found, decodeText_toUTF8 _⟩, valid.decode_encode⟩

/-- An append that opens the artifact has read its entry and has a policy in order, and there
is a repository or something at the path.
-/
theorem opening_eq_ok
    : opening s o w = .ok entry
      ↔ entryIn o.entry (w.reads o.entry) = .ok entry ∧ s.policy.validate = .ok ()
        ∧ (o.repoUrl.or s.repoUrl = none →
          (w.tree.entryAt (dataPath s o.data)).isSome = true) := by
  unfold opening
  cases entryIn o.entry (w.reads o.entry) with
  | error cause => simp
  | ok other =>
      dsimp only
      cases s.policy.validate with
      | error cause => simp
      | ok _ =>
          dsimp only
          cases o.repoUrl.or s.repoUrl <;>
            cases (w.tree.entryAt (dataPath s o.data)).isSome <;> simp

/-- An append that does not open the artifact has no entry, or nowhere to put it. -/
theorem failure_of_opening (valid : s.policy.validate = .ok ()) {cause : CommandError}
    (failed : opening s o w = .error cause)
    : AppendFailure w.tree s o cause := by
  unfold opening at failed
  cases found : entryIn o.entry (w.reads o.entry) with
  | error other =>
      rw [found] at failed
      obtain rfl := Except.error.inj failed
      rcases entryIn_cases w o.entry with ⟨fault, unread⟩ | ⟨text, holds, same⟩
      · rw [unread] at found
        exact Except.error.inj found ▸ .unreadableEntry fault
      · rw [same] at found
        cases document : Entry.decode text with
        | error refusal =>
            rw [document] at found
            exact Except.error.inj found ▸ .badEntry holds document
        | ok entry =>
            rw [document] at found
            contradiction
  | ok entry =>
      rw [found] at failed
      dsimp only at failed
      rw [valid] at failed
      dsimp only at failed
      split at failed
      next nowhere =>
        rw [Bool.and_eq_true, Option.isNone_iff_eq_none, Bool.not_eq_true',
          Option.isSome_eq_false_iff, Option.isNone_iff_eq_none] at nowhere
        exact Except.error.inj failed ▸ .noArtifact nowhere.1 nowhere.2
      next => contradiction

/-- What an update starts from is what the append finds: there is a repository to start a new
ledger for unless something is at the path.
-/
theorem startsFrom_iff_finds {old : Ledger}
    (known : o.repoUrl.or s.repoUrl = none → (t.entryAt (dataPath s o.data)).isSome = true)
    : StartsFrom t (dataPath s o.data) ((o.repoUrl.or s.repoUrl).getD "") old
      ↔ Finds t s o old := by
  constructor
  · intro starts
    rcases starts with ⟨missing, rfl⟩ | ⟨bytes, text, read, decoded, holds⟩
    · cases given : o.repoUrl.or s.repoUrl with
      | none => exact absurd missing (read_ne_missing (known given))
      | some repoUrl => exact .inr ⟨missing, repoUrl, given, rfl⟩
    · exact .inl ⟨text, ⟨bytes, read, decoded⟩, holds⟩
  · intro finds
    rcases finds with ⟨text, ⟨bytes, read, decoded⟩, holds⟩ | ⟨missing, repoUrl, given, rfl⟩
    · exact .inr ⟨bytes, text, read, decoded, holds⟩
    · exact .inl ⟨missing, by rw [given]; rfl⟩

-----------------------------------------------------------------------------------------
-- The change of the artifact
-----------------------------------------------------------------------------------------

section

variable {tool : String} {l new : Ledger} {report : Report}

/-- What an append reports of an entry. -/
def reportFor (s : Settings) (o : AppendOptions) (tool : String) (entry : Entry) (l : Ledger)
    : Report :=
  if o.skipDetect then .empty else l.analyze tool entry s.policy

theorem judgeAndAppend_eq (s : Settings) (o : AppendOptions) (tool : String) (entry : Entry)
    (l : Ledger)
    : judgeAndAppend s o tool entry l
      = Prod.mk (reportFor s o tool entry l) <$> l.append tool entry := by
  unfold judgeAndAppend
  cases l.append tool entry <;> rfl

theorem judgeAndAppend_eq_ok
    : judgeAndAppend s o tool entry l = .ok (report, new)
      ↔ report = reportFor s o tool entry l ∧ l.append tool entry = .ok new := by
  rw [judgeAndAppend_eq, map_eq_ok]
  constructor
  · intro changed
    obtain ⟨other, added, same⟩ := changed
    obtain ⟨rfl, rfl⟩ := Prod.mk.inj same
    exact ⟨rfl, added⟩
  · intro given
    obtain ⟨rfl, added⟩ := given
    exact ⟨new, added, rfl⟩

/-- The alerts of an entry that was not recorded are those of its records, each judged by all
values of its benchmark.
-/
theorem mem_alerts_iff {p : Policy} (fresh : l.hasCommit tool entry.commit.id = false)
    {a : Alert}
    : a ∈ (l.analyze tool entry p).alerts
      ↔ ∃ r ∈ entry.records,
          p.judge tool r (valuesOf r.name (l.entriesOf tool)) = .alert a := by
  simp only [Ledger.mem_alerts_analyze, Ledger.valuesBefore, Ledger.pointsBefore_of_fresh fresh]

/-- An append refuses a foreign entry or a repeated commit. -/
theorem append_eq_error {cause : AppendError} (refused : l.append tool entry = .error cause)
    : entry.tool ≠ tool ∧ cause = .toolMismatch tool entry.tool
      ∨ l.hasCommit tool entry.commit.id = true
        ∧ cause = .duplicateCommit tool entry.commit.id := by
  unfold Ledger.append at refused
  split at refused
  next foreign => exact .inl ⟨foreign, (Except.error.inj refused).symm⟩
  next =>
    split at refused
    next repeated => exact .inr ⟨repeated, (Except.error.inj refused).symm⟩
    next => contradiction

end

/-- An update that writes nothing is a failure of the append. -/
theorem failure_of_unwritten (holds : HoldsEntry t o.entry entry)
    (known : o.repoUrl.or s.repoUrl = none → (t.entryAt (dataPath s o.data)).isSome = true)
    {cause : UpdateError AppendError}
    (failed : Unwritten t (dataPath s o.data) ((o.repoUrl.or s.repoUrl).getD "")
      (judgeAndAppend s o (toolFor o entry) entry) cause)
    : AppendFailure t s o (notUpdated entry cause) := by
  cases failed with
  | unread fault => exact .fault _ fault
  | undecodable read decoded refused => exact .undecodable ⟨_, read, decoded⟩ refused
  | @rejected l cause starts refused =>
      have finds := (startsFrom_iff_finds known).mp starts
      rw [judgeAndAppend_eq] at refused
      cases added : l.append (toolFor o entry) entry with
      | ok new =>
          rw [added] at refused
          contradiction
      | error other =>
          rw [added] at refused
          obtain rfl := Except.error.inj refused
          rcases append_eq_error added with ⟨foreign, rfl⟩ | ⟨repeated, rfl⟩
          · exact .toolMismatch holds foreign
          · exact .duplicateCommit holds finds repeated

/-- The end of an append whose ledger is saved. -/
def appended (colors : Bool) (s : Settings) (o : AppendOptions) (report : Report)
    : Except StorageError Unit × World → Except CommandError Outcome × World
  | (.ok _, after) => (.ok (recorded colors s o report), after)
  | (.error cause, after) => (.error (.storage cause), after)

theorem appended_eq (colors : Bool) (s : Settings) (o : AppendOptions) (report : Report)
    (saved : Except StorageError Unit × World)
    : appended colors s o report saved
      = ((saved.1.mapError CommandError.storage).map fun _ => recorded colors s o report,
          saved.2) := by
  rcases saved with ⟨cause | done, after⟩ <;> rfl

/-- An append fails before anything is written, or the ledger with its entry is saved. -/
theorem append_cases (colors : Bool) (s : Settings) (o : AppendOptions) (w : World)
    : (∃ cause after, runAppend (m := Unsteady) colors s o w = (.error cause, after)
        ∧ after.tree = w.tree
        ∧ (s.policy.validate = .ok () → AppendFailure w.tree s o cause))
      ∨ ∃ entry old new, HoldsEntry w.tree o.entry entry ∧ Finds w.tree s o old
          ∧ old.append (toolFor o entry) entry = .ok new
          ∧ runAppend (m := Unsteady) colors s o w
            = appended colors s o (reportFor s o (toolFor o entry) entry old)
                (save (m := Unsteady) (dataPath s o.data) new w.looked.looked) := by
  rw [runAppend_apply]
  cases opened : opening s o w with
  | error cause =>
      exact .inl ⟨cause, w.looked, rfl, rfl, fun valid => failure_of_opening valid opened⟩
  | ok entry =>
      obtain ⟨found, -, known⟩ := opening_eq_ok.mp opened
      have holds := holdsEntry_of_entryIn found
      dsimp only
      unfold updating
      rcases update_cases (dataPath s o.data) ((o.repoUrl.or s.repoUrl).getD "")
          (judgeAndAppend s o (toolFor o entry) entry) w.looked with
        ⟨cause, failed, unwritten⟩ | ⟨old, report, new, starts, changed, saved⟩
      · rw [failed]
        exact .inl ⟨_, _, rfl, rfl, fun _ => failure_of_unwritten holds known unwritten⟩
      · obtain ⟨rfl, added⟩ := judgeAndAppend_eq_ok.mp changed
        have finds := (startsFrom_iff_finds known).mp starts
        refine .inr ⟨entry, old, new, holds, finds, added, ?_⟩
        rw [saved]
        rcases save (m := Unsteady) (dataPath s o.data) new w.looked.looked
          with ⟨cause | done, after⟩ <;> rfl

/-- Where nothing slips, an append that finds its entry and a history saves them. -/
theorem append_steady (colors : Bool) (steady : w.slips = [])
    (valid : s.policy.validate = .ok ()) (holds : HoldsEntry w.tree o.entry entry)
    {old new : Ledger} (finds : Finds w.tree s o old)
    (added : old.append (toolFor o entry) entry = .ok new)
    : runAppend (m := Unsteady) colors s o w
      = appended colors s o (reportFor s o (toolFor o entry) entry old)
          (save (m := Unsteady) (dataPath s o.data) new w.looked.looked) := by
  have known (unnamed : o.repoUrl.or s.repoUrl = none)
      : (w.tree.entryAt (dataPath s o.data)).isSome = true := by
    rcases finds with ⟨text, ⟨bytes, read, -⟩, -⟩ | ⟨-, repoUrl, given, -⟩
    · obtain ⟨mode, found⟩ := entryAt_of_read read
      rw [found]
      rfl
    · rw [unnamed] at given
      contradiction
  have opened : opening s o w = .ok entry :=
    opening_eq_ok.mpr ⟨entryIn_of_holdsEntry steady holds, valid, known⟩
  have start
      : started (dataPath s o.data) ((o.repoUrl.or s.repoUrl).getD "")
          (w.looked.reads (dataPath s o.data)) = .ok old := by
    rw [World.reads, World.looked, steady]
    exact started_eq_ok_iff.mpr ((startsFrom_iff_finds known).mpr finds)
  have changed
      : judgeAndAppend s o (toolFor o entry) entry old
        = .ok (reportFor s o (toolFor o entry) entry old, new) :=
    judgeAndAppend_eq_ok.mpr ⟨rfl, added⟩
  rw [runAppend_apply, opened]
  dsimp only
  rw [updating, update_started start changed]
  rcases save (m := Unsteady) (dataPath s o.data) new w.looked.looked
    with ⟨cause | done, after⟩ <;> rfl

/-- Where nothing slips, saving succeeds exactly where it can be done. -/
theorem save_steady (path : String) (l : Ledger) (steady : w.slips = [])
    : (∀ prepared target, Savable w.tree path prepared target →
        (save (m := Unsteady) path l w).1 = .ok ()
        ∧ (save (m := Unsteady) path l w).2.tree = prepared.put target (fileOf l)
        ∧ (save (m := Unsteady) path l w).2.slips = [])
      ∧ ((∀ prepared target, ¬ Savable w.tree path prepared target) →
        ∃ place fault, (save (m := Unsteady) path l w).1 = .error (.io place fault)) := by
  obtain ⟨result, tree, still⟩ := follows_save path l w steady
  refine ⟨fun prepared target savable => ?_, fun impossible => ?_⟩
  · rw [savable.save_apply] at result tree
    exact ⟨result, tree, still⟩
  · obtain ⟨cause, failed⟩ := save_apply_of_not_savable impossible l
    rw [failed] at result
    have led := (leads_save_fault path l w trivial fun _ _ => trivial).2
    rw [result] at led
    obtain ⟨place, fault, rfl⟩ := led
    exact ⟨place, fault, result⟩

section

variable {old new : Ledger}

/-- Where nothing slips and the artifact can be saved, an append records its entry. -/
theorem append_recorded (colors : Bool) (steady : w.slips = [])
    (valid : s.policy.validate = .ok ()) (holds : HoldsEntry w.tree o.entry entry)
    (finds : Finds w.tree s o old) (added : old.append (toolFor o entry) entry = .ok new)
    {prepared : FileTree} {target : Place}
    (savable : Savable w.tree (dataPath s o.data) prepared target)
    : (runAppend (m := Unsteady) colors s o w).1
        = .ok (recorded colors s o (reportFor s o (toolFor o entry) entry old))
      ∧ (runAppend (m := Unsteady) colors s o w).2.tree = prepared.put target (fileOf new) := by
  have still := World.looked_steady (World.looked_steady steady)
  obtain ⟨done, tree, -⟩ := (save_steady _ new still).1 prepared target savable
  rw [append_steady colors steady valid holds finds added, appended_eq, done]
  exact ⟨rfl, tree⟩

/-- Where nothing slips but the artifact cannot be saved, an append fails with a fault of the
disk.
-/
theorem append_unsaved (colors : Bool) (steady : w.slips = [])
    (valid : s.policy.validate = .ok ()) (holds : HoldsEntry w.tree o.entry entry)
    (finds : Finds w.tree s o old) (added : old.append (toolFor o entry) entry = .ok new)
    (unsavable : ∀ prepared target, ¬ Savable w.tree (dataPath s o.data) prepared target)
    : ∃ place fault,
        (runAppend (m := Unsteady) colors s o w).1 = .error (.storage (.io place fault)) := by
  have still := World.looked_steady (World.looked_steady steady)
  obtain ⟨place, fault, failed⟩ := (save_steady _ new still).2 unsavable
  rw [append_steady colors steady valid holds finds added, appended_eq, failed]
  exact ⟨place, fault, rfl⟩

end

-----------------------------------------------------------------------------------------
-- Appending
-----------------------------------------------------------------------------------------

/-- A record of an entry is an alert that counts, judged by the values of a history. -/
def HasFailure (p : Policy) (tool : String) (entry : Entry) (old : Ledger) : Prop :=
  ∃ r ∈ entry.records, ∃ a, p.judge tool r (valuesOf r.name (old.entriesOf tool)) = .alert a
    ∧ ∀ limit ∈ p.failRatio, limit.lt a.ratio = true

/-- A report has failures when one of its alerts counts. -/
theorem failures_isEmpty_eq_false {p : Policy} {report : Report}
    : (report.failures p).isEmpty = false ↔ ∃ a ∈ report.alerts, a.isFailure p = true := by
  rw [List.isEmpty_eq_false_iff_exists_mem, Report.failures]
  simp only [List.mem_filter]

/-- The report of a new entry counts as a failure when one of its records is. -/
theorem failures_isEmpty_iff {p : Policy} {tool : String} {old : Ledger}
    (fresh : old.hasCommit tool entry.commit.id = false)
    : ((old.analyze tool entry p).failures p).isEmpty = false ↔ HasFailure p tool entry old := by
  have counts (a : Alert)
      : a.isFailure p = true ↔ ∀ limit ∈ p.failRatio, limit.lt a.ratio = true := by
    unfold Alert.isFailure
    cases p.failRatio <;> simp
  simp only [failures_isEmpty_eq_false, mem_alerts_iff fresh, counts]
  constructor
  · intro given
    obtain ⟨a, ⟨r, member, judged⟩, above⟩ := given
    exact ⟨r, member, a, judged, above⟩
  · intro given
    obtain ⟨r, member, a, judged, above⟩ := given
    exact ⟨a, ⟨r, member, judged⟩, above⟩

/-- An append that judges its entry shows the report against the history it found. -/
theorem output_recorded (colors : Bool) (judged : o.skipDetect = false) (entry : Entry)
    (old : Ledger)
    : (Ending.ofResult
          (.ok (recorded colors s o (reportFor s o (toolFor o entry) entry old)))).output
      = showReport colors o.json s.policy (old.analyze (toolFor o entry) entry s.policy) := by
  rw [Ending.ofResult, Ending.output, recorded, reportFor, judged]
  rfl

/-- An append that recorded its entry ends with the status for what it found: two if it was to
fail on an alert that counts, else zero.
-/
theorem exitCode_recorded (colors : Bool) {old new : Ledger}
    (exclusive : ¬ (o.failOnAlert = true ∧ o.skipDetect = true))
    (added : old.append (toolFor o entry) entry = .ok new)
    : let ending :=
        Ending.ofResult (.ok (recorded colors s o (reportFor s o (toolFor o entry) entry old)))
      (ending.exitCode = 2
        ↔ o.failOnAlert = true ∧ HasFailure s.policy (toolFor o entry) entry old)
      ∧ (ending.exitCode = 2 ∨ ending.exitCode = 0) := by
  obtain ⟨-, fresh, -⟩ := Ledger.append_eq_ok.mp added
  have status (outcome : Outcome)
      : ((Ending.ofResult (.ok outcome)).exitCode = 2 ↔ outcome.hasFailure = true)
        ∧ ((Ending.ofResult (.ok outcome)).exitCode = 2
          ∨ (Ending.ofResult (.ok outcome)).exitCode = 0) := by
    obtain ⟨output, hasFailure⟩ := outcome
    cases hasFailure <;> simp [Ending.ofResult, Ending.exitCode, Outcome.exitCode]
  refine ⟨(status _).1.trans ?_, (status _).2⟩
  rw [← failures_isEmpty_iff fresh, recorded, Bool.and_eq_true, Bool.not_eq_true']
  refine and_congr_right fun failing => ?_
  have judged : ¬ o.skipDetect = true := fun skipped => exclusive ⟨failing, skipped⟩
  rw [reportFor, if_neg judged]

/-- Where nothing slips, an append succeeds exactly when its entry can be added to what it finds
and the artifact can be saved.
-/
theorem append_ok_iff (colors : Bool) (steady : w.slips = [])
    (valid : s.policy.validate = .ok ())
    : (∃ shown, (runAppend (m := Unsteady) colors s o w).1 = .ok shown)
      ↔ ∃ entry old new prepared target, HoldsEntry w.tree o.entry entry ∧ Finds w.tree s o old
        ∧ old.append (toolFor o entry) entry = .ok new
        ∧ Savable w.tree (dataPath s o.data) prepared target := by
  constructor
  · intro given
    obtain ⟨shown, succeeded⟩ := given
    rcases append_cases colors s o w with
      ⟨cause, after, failed, -⟩ | ⟨entry, old, new, holds, finds, added, -⟩
    · rw [failed] at succeeded
      contradiction
    · by_contra impossible
      obtain ⟨place, fault, failed⟩ := append_unsaved colors steady valid holds finds added
        fun prepared target savable =>
          impossible ⟨entry, old, new, prepared, target, holds, finds, added, savable⟩
      rw [failed] at succeeded
      contradiction
  · intro given
    obtain ⟨entry, old, new, prepared, target, holds, finds, added, savable⟩ := given
    exact ⟨_, (append_recorded colors steady valid holds finds added savable).1⟩

/-- An append happens as a whole or not at all, whatever slips on the disk. When it fails, the
cause is one of those of an append, the run ends with status one and shows nothing, what is at
the path is what was there before, and at most directories on the way to it are new. When it
succeeds, the entry in its file was added to the history that was found, and the artifact is
that of the longer history. What it shows is the report against the history found. The status
is two exactly if it was to fail and one of the records is an alert that counts against that
history, and else zero. On a disk where nothing slips it succeeds exactly when the entry can be
added and the artifact can be saved.
-/
theorem append_effect (h : t.WellFormed) (valid : s.policy.validate = .ok ())
    (forward : Forward (Path.steps (dataPath s o.data)))
    (exclusive : ¬ (o.failOnAlert = true ∧ o.skipDetect = true)) (colors : Bool)
    (slips : List (Option Nat))
    : let path := dataPath s o.data
      let outcome := execute (m := Unsteady) colors s (.append o) ⟨t, slips, []⟩
      let ending := Ending.ofResult outcome.1
      let after := outcome.2.tree
      (∀ cause, outcome.1 = .error cause →
        AppendFailure t s o cause ∧ ending.exitCode = 1 ∧ ending.output = ""
        ∧ after.entryAt path = t.entryAt path ∧ Grown (· <+: wayTo path) t after)
      ∧ (∀ shown, outcome.1 = .ok shown →
        ∃ entry old new, HoldsEntry t o.entry entry ∧ Finds t s o old
          ∧ old.append (toolFor o entry) entry = .ok new
          ∧ after.entryAt path = some (fileOf new)
          ∧ (o.skipDetect = false →
            ending.output
              = showReport colors o.json s.policy (old.analyze (toolFor o entry) entry s.policy))
          ∧ (ending.exitCode = 2
            ↔ o.failOnAlert = true ∧ HasFailure s.policy (toolFor o entry) entry old)
          ∧ (ending.exitCode = 2 ∨ ending.exitCode = 0))
      ∧ (slips = [] →
        ((∃ shown, outcome.1 = .ok shown)
          ↔ ∃ entry old new prepared target, HoldsEntry t o.entry entry ∧ Finds t s o old
            ∧ old.append (toolFor o entry) entry = .ok new
            ∧ Savable t path prepared target)) := by
  dsimp only
  rw [execute_append, ← and_assoc]
  refine ⟨?_, fun steady => append_ok_iff colors steady valid⟩
  rcases append_cases colors s o ⟨t, slips, []⟩ with
    ⟨cause, after, failed, same, why⟩ | ⟨entry, old, new, holds, finds, added, saved⟩
  · rw [failed]
    refine ⟨fun other given => ?_, nofun⟩
    obtain rfl := Except.error.inj given
    rw [same]
    exact ⟨why valid, rfl, rfl, rfl, .refl _ t⟩
  · have seen (tree : FileTree) (member : tree ∈ [t, t])
        : OldOrNew t (dataPath s o.data) new tree := by
      obtain rfl : tree = t := by simpa using member
      exact .inl rfl
    obtain ⟨-, led⟩ := leads_save h forward new ⟨t, slips.tail.tail, [t, t]⟩ rfl seen
    have failure := (leads_save_fault (dataPath s o.data) new ⟨t, slips.tail.tail, [t, t]⟩ trivial
      fun _ _ => trivial).2
    have looked : World.looked (World.looked ⟨t, slips, []⟩) = ⟨t, slips.tail.tail, [t, t]⟩ := rfl
    rw [saved, looked]
    revert led failure
    rcases save (m := Unsteady) (dataPath s o.data) new ⟨t, slips.tail.tail, [t, t]⟩
      with ⟨cause | done, after⟩ <;> dsimp only [appended]
    · intro ready failure
      obtain ⟨place, fault, rfl⟩ := failure
      refine ⟨fun other given => ?_, nofun⟩
      obtain rfl := Except.error.inj given
      exact ⟨.fault place fault, rfl, rfl, ready.grown.entryAt_eq h ready.wellFormed forward,
        ready.grown⟩
    · intro led failure
      refine ⟨fun other given => absurd given (by simp), fun shown given => ?_⟩
      obtain rfl := Except.ok.inj given
      obtain ⟨status, either⟩ := exitCode_recorded colors exclusive added
      refine ⟨entry, old, new, holds, finds, added, led.1, fun judged => ?_, status, either⟩
      exact output_recorded colors judged entry old

/-- An entry of one record. -/
def sampleEntry : Entry where
  commit := { (default : Commit) with id := "0123456789012345678901234567890123456789" }
  date := 0
  tool := "bench"
  records := [⟨"b", .zero false, "s", none, none⟩]

theorem sampleEntry_valid : sampleEntry.Valid := by
  have record : Record.make "b" (.zero false) "s" = .ok ⟨"b", .zero false, "s", none, none⟩ := rfl
  have created
      : Entry.create sampleEntry.commit 0 "bench" sampleEntry.records = .ok sampleEntry := by
    decide
  have each : ∀ r ∈ sampleEntry.records, r.Made := List.forall_mem_singleton.mpr (.make record)
  exact (Entry.Made.create (by decide) each created).valid

/-- A tree with nothing but the document of the sample entry. -/
def sampleTree : FileTree := ⟨[(["e.json"], .file publicMode sampleEntry.encode.toUTF8)]⟩

/-- Options that record the sample entry in a new artifact. -/
def sampleOptions : AppendOptions :=
  ⟨some "data.js", "e.json", none, some "repo", true, false, false⟩

/-- The first entry of a repository starts its artifact. -/
theorem append_effect_first
    : let outcome :=
        execute (m := Unsteady) false .standard (.append sampleOptions) ⟨sampleTree, [], []⟩
      (∃ shown, outcome.1 = .ok shown)
      ∧ ∃ new, outcome.2.tree.entryAt "data.js" = some (fileOf new) := by
  have formed : sampleTree.WellFormed :=
    wellFormed_empty.put (.file publicMode sampleEntry.encode.toUTF8)
      (by simp [node?, empty] : empty.node? ([] ++ ["e.json"]) ≠ some .directory) (node?_nil _)
  have valid : Settings.standard.policy.validate = .ok () := by decide +kernel
  have effect := append_effect formed valid (o := sampleOptions) (by decide) (by decide) false []
  have given : HoldsEntry sampleTree "e.json" sampleEntry :=
    holdsEntry_of_entryAt sampleEntry_valid rfl
  have missing : sampleTree.read "data.js" = .error .missing := by rfl
  have finds : Finds sampleTree .standard sampleOptions (Ledger.new "repo") :=
    .inr ⟨missing, "repo", rfl, rfl⟩
  have room : ∃ place, sampleTree.freshPlace "." "data.js" = .ok place := ⟨_, rfl⟩
  have savable : Savable sampleTree "data.js" sampleTree ["data.js"] :=
    ⟨rfl, room, rfl, rfl, by decide⟩
  obtain ⟨new, added⟩
      : ∃ new, (Ledger.new "repo").append (toolFor sampleOptions sampleEntry) sampleEntry
        = .ok new :=
    ⟨_, rfl⟩
  obtain ⟨shown, succeeded⟩ :=
    (effect.2.2 rfl).mpr ⟨sampleEntry, _, new, _, ["data.js"], given, finds, added, savable⟩
  obtain ⟨_, _, new, _, _, _, found, _⟩ := effect.2.1 shown succeeded
  exact ⟨⟨shown, succeeded⟩, new, found⟩

end PerfLedger.Command
