import PerfLedger.Proofs.Command.Histories

/-! A detection tells beforehand what an append will show of the same entry, and goes on to tell
it once the entry is recorded.
-/

namespace PerfLedger

open FileTree Unsteady Artifact

-----------------------------------------------------------------------------------------
-- The same report
-----------------------------------------------------------------------------------------

namespace Ledger

variable {l m : Ledger} {tool : String} {e : Entry}

/-- The values before a commit, without signs, are those of the ledger without signs. -/
theorem pointsBefore_unsigned (l : Ledger) (tool name commitId : String)
    : (l.unsigned.pointsBefore tool name commitId).map Prod.snd
      = ((l.pointsBefore tool name commitId).map Prod.snd).map Double.unsigned := by
  have before := List.takeWhile_map (f := Entry.unsigned) (l := l.entriesOf tool)
    (p := fun other => other.commit.id != commitId)
  have values := valuesOf_unsigned name
    ((l.entriesOf tool).takeWhile fun other => other.commit.id != commitId)
  rw [pointsBefore, pointsBefore, entriesOf_unsigned, ← valuesOf, ← valuesOf, before]
  exact values

/-- A ledger without signs reports the same of an entry, before it is recorded and once it is
the first of its commit.
-/
theorem analyze_unsigned_of_kept (p : Policy) (fresh : l.hasCommit tool e.commit.id = false)
    (kept : (l.entriesOf tool ++ [e]).map Entry.unsigned
      <+: (m.entriesOf tool).map Entry.unsigned)
    : m.unsigned.analyze tool e p = l.unsigned.analyze tool e p := by
  have points (name : String)
      : (m.unsigned.pointsBefore tool name e.commit.id).map Prod.snd
        = (l.unsigned.pointsBefore tool name e.commit.id).map Prod.snd := by
    rw [pointsBefore_unsigned, pointsBefore_unsigned, pointsBefore_of_kept fresh kept,
      pointsBefore_of_fresh fresh]
  rw [analyze, analyze]
  simp only [points]

end Ledger

-----------------------------------------------------------------------------------------
-- Detection
-----------------------------------------------------------------------------------------

namespace Command

variable {s : Settings} {w : World} {entry : Entry} {l : Ledger}

/-- Where nothing slips, a detection shows the report against the ledger in the artifact. -/
theorem detect_steady (colors : Bool) {o : DetectOptions} (steady : w.slips = [])
    (valid : s.policy.validate = .ok ()) (given : HoldsEntry w.tree o.entry entry)
    (holds : HoldsLedger w.tree (dataPath s o.data) l)
    : (runDetect (m := Unsteady) colors s o w).1
      = .ok (.quiet (showReport colors o.json s.policy (l.analyze entry.tool entry s.policy))) := by
  obtain ⟨text, ⟨bytes, read, decoded⟩, document⟩ := holds
  have found : loaded (dataPath s o.data) (w.looked.reads (dataPath s o.data)) = .ok l := by
    have reads : w.looked.reads (dataPath s o.data) = w.tree.read (dataPath s o.data) := by
      rw [World.reads, World.looked, steady]
      rfl
    rw [reads, read, loaded_text decoded, document]
    rfl
  rw [runDetect_apply, entryIn_of_holdsEntry steady given]
  dsimp only
  rw [valid]
  dsimp only
  rw [found]
  rfl

-----------------------------------------------------------------------------------------
-- Files that are kept
-----------------------------------------------------------------------------------------

/-- A path leads to a written artifact. -/
def HoldsScript (t : FileTree) (path : String) (l : Ledger) : Prop :=
  l.Valid ∧ ∃ mode, t.entryAt path = some (.file mode l.encode.toUTF8)

theorem HoldsScript.holdsLedger {t : FileTree} {path : String} (h : HoldsScript t path l)
    : HoldsLedger t path l.unsigned := by
  obtain ⟨valid, mode, found⟩ := h
  exact holdsLedger_of_entryAt valid found

/-- A document with an entry is no written artifact, so it stays when the artifact is written
over.
-/
theorem HoldsEntry.of_rewritten {t t' : FileTree} {path file : String} {new : Ledger}
    (given : HoldsEntry t file entry) (script : HoldsScript t path l)
    (rewritten : Rewritten t path new t')
    : HoldsEntry t' file entry := by
  obtain ⟨text, held, document⟩ := given
  refine ⟨text, held.of_entryAt fun node found => ?_, document⟩
  refine (rewritten.others file node found).resolve_right fun artifact => ?_
  obtain ⟨bytes, read, decoded⟩ := held
  obtain ⟨-, mode, written⟩ := script
  obtain ⟨mode', found'⟩ := entryAt_of_read read
  have same : some (FileNode.file mode' bytes) = some (.file mode l.encode.toUTF8) :=
    found'.symm.trans (found.trans (artifact.symm.trans written))
  obtain ⟨-, rfl⟩ := FileNode.file.inj (Option.some.inj same)
  rw [decodeText_toUTF8] at decoded
  obtain rfl := Except.ok.inj decoded
  exact Entry.decode_encode_ledger l entry document

/-- A step leaves a written artifact whose ledger goes on, and keeps an entry in another
file.
-/
theorem Step.script {t t' : FileTree} {path file : String} (step : Step path t t')
    (script : HoldsScript t path l) (given : HoldsEntry t file entry)
    : HoldsEntry t' file entry ∧ ∃ m, HoldsScript t' path m ∧ l.Continues m := by
  cases step with
  | kept keeps =>
      obtain ⟨valid, mode, found⟩ := script
      obtain ⟨text, held, document⟩ := given
      exact ⟨⟨text, held.of_entryAt fun _ => keeps.entryAt_of_some, document⟩,
        l, ⟨valid, mode, keeps.entryAt_of_some found⟩, .refl l⟩
  | @added old new tool other holds valid grown rewritten =>
      have kept := given.of_rewritten script rewritten
      obtain rfl := holds.unique script.holdsLedger
      have longer := holds.valid.append valid grown
      exact ⟨kept, new, ⟨longer, publicMode, rewritten.found⟩,
        (Ledger.continues_unsigned l).trans (holds.valid.continues_append grown)⟩

end Command

/-- In every world that is reached there is a written artifact whose ledger goes on, and an
entry in a file that others leave alone.
-/
theorem Reaches.script {path file : String} {alone : List String} {start w : World} {l : Ledger}
    {entry : Entry} (reached : Reaches path alone start w) (left : file ∈ alone)
    (script : Command.HoldsScript start.tree path l)
    (given : Command.HoldsEntry start.tree file entry)
    : Command.HoldsEntry w.tree file entry
      ∧ ∃ m, Command.HoldsScript w.tree path m ∧ l.Continues m := by
  induction reached with
  | refl => exact ⟨given, l, script, .refl l⟩
  | run colors environment arguments reached aims ih =>
      obtain ⟨given, m, script, longer⟩ := ih
      obtain ⟨-, mode, found⟩ := id script
      obtain ⟨given, n, script, longer'⟩ := (run_step aims colors found).script script given
      exact ⟨given, n, script, longer.trans longer'⟩
  | others t reached same ih =>
      obtain ⟨⟨text, held, document⟩, m, ⟨valid, mode, found⟩, longer⟩ := ih
      refine ⟨⟨text, held.of_entryAt fun node present => ?_, document⟩, m, ⟨valid, mode, ?_⟩, longer⟩
      · exact (same file (List.mem_cons_of_mem _ left)).trans present
      · exact (same path List.mem_cons_self).trans found

-----------------------------------------------------------------------------------------
-- Dry runs
-----------------------------------------------------------------------------------------

namespace Command

/-- A detection and an append that are given the same. The append judges its entry and adds it
to the series of the tool that the entry names.
-/
structure SameRun (d : DetectOptions) (o : AppendOptions) (entry : Entry) : Prop where
  data : o.data = d.data
  file : o.entry = d.entry
  json : o.json = d.json
  judged : o.skipDetect = false
  own : ∀ tool ∈ o.tool, tool = entry.tool

theorem SameRun.toolFor {d : DetectOptions} {o : AppendOptions} (h : SameRun d o entry)
    : Command.toolFor o entry = entry.tool := by
  have own := h.own
  unfold Command.toolFor
  cases given : o.tool with
  | none => rfl
  | some tool => exact own tool given

/-- A detection shows the same again once an append has saved its entry, in every world that is
reached from there.
-/
theorem detect_again {d : DetectOptions} {t : FileTree} {start : World} {alone : List String}
    {new : Ledger} (colors : Bool) (valid : s.policy.validate = .ok ())
    (script : HoldsScript t (dataPath s d.data) l) (given : HoldsEntry t d.entry entry)
    (fresh : l.hasCommit entry.tool entry.commit.id = false)
    (added : l.unsigned.append entry.tool entry = .ok new)
    (rewritten : Rewritten t (dataPath s d.data) new start.tree) (left : d.entry ∈ alone)
    (reached : Reaches (dataPath s d.data) alone start w)
    : (runDetect (m := Unsteady) colors s d ⟨w.tree, [], []⟩).1
      = .ok (.quiet (showReport colors d.json s.policy
          (l.unsigned.analyze entry.tool entry s.policy))) := by
  have held := script.holdsLedger.valid
  have script' : HoldsScript start.tree (dataPath s d.data) new :=
    ⟨held.append given.valid added, publicMode, rewritten.found⟩
  obtain ⟨given', m, script', longer⟩ :=
    reached.script left script' (given.of_rewritten script rewritten)
  have entries
      : (new.entriesOf entry.tool).map Entry.unsigned
        = (l.entriesOf entry.tool ++ [entry]).map Entry.unsigned := by
    rw [Ledger.entriesOf_append held.sorted added, if_pos rfl, List.map_append, List.map_append,
      ← Ledger.entriesOf_unsigned, ← Ledger.entriesOf_unsigned, Ledger.unsigned_unsigned]
  have kept := entries ▸ longer.series entry.tool
  have shown := detect_steady (w := ⟨w.tree, [], []⟩) colors rfl valid given' script'.holdsLedger
  rw [shown, Ledger.analyze_unsigned_of_kept s.policy fresh kept]

/-- A detection is a dry run of an append. Start with the text of a ledger that some run leads
to, and with an entry of a commit that its tool does not have yet. The detection succeeds.
Where the artifact can be saved, the append shows the same text as the detection, and if it is
to fail on an alert, its status is two exactly when the report of the detection has one that
counts. The detection shows the same text again in every world that is reached from there.
Where the artifact cannot be saved, the append fails with a fault of the disk.
-/
theorem detect_foretells (repoUrl : String) (actions : List Action) {t : FileTree} {mode : Nat}
    {d : DetectOptions} {o : AppendOptions} (valid : s.policy.validate = .ok ())
    (same : SameRun d o entry)
    (artifact : t.entryAt (dataPath s d.data)
      = some (.file mode (Ledger.run repoUrl actions).encode.toUTF8))
    (given : HoldsEntry t d.entry entry)
    (fresh : (Ledger.run repoUrl actions).hasCommit entry.tool entry.commit.id = false)
    (colors : Bool)
    : let path := dataPath s d.data
      let report := (Ledger.run repoUrl actions).unsigned.analyze entry.tool entry s.policy
      let detected := (execute (m := Unsteady) colors s (.detect d) ⟨t, [], []⟩).1
      let appended := execute (m := Unsteady) colors s (.append o) ⟨t, [], []⟩
      detected = .ok (.quiet (showReport colors d.json s.policy report))
      ∧ (∀ prepared target, Savable t path prepared target →
        (Ending.ofResult appended.1).output = (Ending.ofResult detected).output
        ∧ (∃ shown, appended.1 = .ok shown)
        ∧ ((Ending.ofResult appended.1).exitCode = 2
          ↔ o.failOnAlert = true ∧ ∃ a ∈ report.alerts, a.isFailure s.policy = true)
        ∧ ∀ alone w, d.entry ∈ alone → Reaches path alone appended.2 w →
          (execute (m := Unsteady) colors s (.detect d) ⟨w.tree, [], []⟩).1 = detected)
      ∧ ((∀ prepared target, ¬ Savable t path prepared target) →
        ∃ place fault, appended.1 = .error (.storage (.io place fault))) := by
  have valid' := Ledger.valid_run repoUrl actions
  generalize Ledger.run repoUrl actions = l at *
  have script : HoldsScript t (dataPath s d.data) l := ⟨valid', mode, artifact⟩
  have detected := detect_steady (w := ⟨t, [], []⟩) colors rfl valid given script.holdsLedger
  have fresh' : l.unsigned.hasCommit entry.tool entry.commit.id = false := by
    rw [Ledger.hasCommit_unsigned, fresh]
  obtain ⟨new, added⟩ : ∃ new, l.unsigned.append entry.tool entry = .ok new :=
    ⟨_, Ledger.append_eq_ok.mpr ⟨rfl, fresh', rfl⟩⟩
  have finds : Finds t s o l.unsigned := .inl (same.data ▸ script.holdsLedger)
  have given' : HoldsEntry t o.entry entry := same.file ▸ given
  have added' : l.unsigned.append (toolFor o entry) entry = .ok new := same.toolFor ▸ added
  dsimp only
  simp only [execute_detect, execute_append]
  rw [detected]
  refine ⟨rfl, fun prepared target savable => ?_, fun unsavable => ?_⟩
  · obtain ⟨succeeded, tree⟩ := append_recorded (w := ⟨t, [], []⟩) colors rfl valid given' finds
      added' (same.data ▸ savable)
    have keeps : Keeps t prepared := by
      have grown := grown_makeDirectories t (Path.directoryOf (dataPath s d.data))
      rw [savable.made] at grown
      exact grown.kept
    have start := tree ▸ rewritten_put artifact keeps savable.target new
    obtain ⟨status, -⟩ := exitCode_recorded colors (fun both => by simp [same.judged] at both)
      added'
    rw [← failures_isEmpty_iff (same.toolFor.symm ▸ fresh'), failures_isEmpty_eq_false,
      same.toolFor] at status
    have output := output_recorded (s := s) colors same.judged entry l.unsigned
    rw [same.toolFor, same.json] at output
    rw [succeeded, same.toolFor]
    exact ⟨output, ⟨_, rfl⟩, status, fun alone w left reached =>
      detect_again colors valid script given fresh added start left reached⟩
  · exact append_unsaved (w := ⟨t, [], []⟩) colors rfl valid given' finds added'
      (same.data ▸ unsavable)

/-- An entry that takes two seconds where the two before it took one is an alert. The append shows
what was foretold and fails on it, and the same is foretold again once the entry is recorded.
-/
theorem detect_foretells_alert
    : let d : DetectOptions := ⟨some "data.js", "e.json", false⟩
      let o : AppendOptions := ⟨some "data.js", "e.json", none, none, true, false, false⟩
      let held := Ledger.annotated [0, 1] (.ofNat 1) (by decide +kernel)
      let t := withDocument held (.annotated 2 (.ofNat 2))
      let detected := (execute (m := Unsteady) false .standard (.detect d) ⟨t, [], []⟩).1
      let appended := execute (m := Unsteady) false .standard (.append o) ⟨t, [], []⟩
      (∃ shown, detected = .ok shown)
      ∧ (Ending.ofResult appended.1).output = (Ending.ofResult detected).output
      ∧ (Ending.ofResult appended.1).exitCode = 2
      ∧ (execute (m := Unsteady) false .standard (.detect d) ⟨appended.2.tree, [], []⟩).1
        = detected := by
  intro d o held t
  have valid : Settings.standard.policy.validate = .ok () := by decide +kernel
  have same : SameRun d o (.annotated 2 (.ofNat 2)) := ⟨rfl, rfl, rfl, rfl, nofun⟩
  have admitted : (Double.ofNat 2).isFiniteNonnegative = true := by decide +kernel
  have unsigned : (Entry.annotated 2 (.ofNat 2)).unsigned = .annotated 2 (.ofNat 2) := by
    decide +kernel
  have given : HoldsEntry t "e.json" (Entry.annotated 2 (.ofNat 2)).unsigned :=
    holdsEntry_withDocument held (MadeEntry.annotated 2 (.ofNat 2) admitted).2.valid
  rw [unsigned] at given
  obtain ⟨shown, foretold, -⟩ := detect_foretells "repo" _ valid same
    (entryAt_withDocument held (.annotated 2 (.ofNat 2))) given (by decide +kernel) false
  obtain ⟨output, -, status, again⟩ := foretold _ _ (savable_withDocument _ _)
  refine ⟨⟨_, shown⟩, output, status.mpr ⟨rfl, by decide +kernel⟩, ?_⟩
  exact again ["e.json"] _ (List.mem_singleton_self _) .refl

end Command

-----------------------------------------------------------------------------------------
-- Paths that are almost too long
-----------------------------------------------------------------------------------------

namespace Path

/-- A path to `a/b/d` with some slashes more than it needs. -/
def slashed (n : Nat) : String :=
  String.ofList (['a'] ++ '/' :: (List.replicate n '/' ++ ['b', '/', 'd']))

theorem segments_replicate (n : Nat) (text : List Char)
    : segments (List.replicate n '/' ++ text) = List.replicate n [] ++ segments text := by
  induction n with
  | zero => rfl
  | succ n ih =>
      rw [List.replicate_succ, List.cons_append, segments, if_pos rfl, ih]
      rfl

theorem segments_slashed (n : Nat)
    : segments (slashed n).toList = ['a'] :: (List.replicate n [] ++ [['b']] ++ [['d']]) := by
  have last : segments ['b', '/', 'd'] = [['b']] ++ [['d']] := rfl
  rw [slashed, String.toList_ofList, segments_append (by decide), segments_replicate, last,
    List.append_assoc]

theorem joined_replicate (first : List Char) (n : Nat) (last : List Char)
    : joined (first :: (List.replicate n [] ++ [last]))
      = first ++ '/' :: (List.replicate n '/' ++ last) := by
  induction n generalizing first with
  | zero => rfl
  | succ n ih =>
      have more : joined (first :: [] :: (List.replicate n [] ++ [last]))
          = first ++ '/' :: joined ([] :: (List.replicate n [] ++ [last])) := rfl
      rw [List.replicate_succ, List.cons_append, more, ih]
      rfl

theorem directoryOf_slashed (n : Nat)
    : directoryOf (slashed n)
      = String.ofList (['a'] ++ '/' :: (List.replicate n '/' ++ ['b'])) := by
  have pieces
      : settled (settled (segments (slashed n).toList)).dropLast
        = ['a'] :: (List.replicate n [] ++ [['b']]) := by
    rw [segments_slashed, settled_cons, List.rdropWhile_concat_neg _ _ _ (by decide),
      ← List.cons_append, List.dropLast_concat, settled_cons,
      List.rdropWhile_concat_neg _ _ _ (by decide)]
  rw [directoryOf, pieces]
  dsimp only
  rw [joined_replicate]

/-- The bytes of a text with slashes in a row. -/
theorem utf8ByteSize_slashes (before : List Char) (n : Nat) (after : List Char)
    : (String.ofList (before ++ '/' :: (List.replicate n '/' ++ after))).utf8ByteSize
      = (String.ofList before).utf8ByteSize + (n + 1) + (String.ofList after).utf8ByteSize := by
  have slashes (n : Nat) : (String.ofList (List.replicate n '/')).utf8ByteSize = n := by
    induction n with
    | zero => rfl
    | succ n ih =>
        rw [List.replicate_succ', String.ofList_append, String.utf8ByteSize_append, ih]
        rfl
  have whole : before ++ '/' :: (List.replicate n '/' ++ after)
      = before ++ (List.replicate (n + 1) '/' ++ after) := rfl
  rw [whole, String.ofList_append, String.ofList_append, String.utf8ByteSize_append,
    String.utf8ByteSize_append, slashes]
  omega

theorem isNamable_slashed (n : Nat) : isNamable (slashed n) = true := by
  simp [isNamable, slashed]

theorem isEmpty_slashed (n : Nat) : (slashed n).isEmpty = false := by
  rw [String.isEmpty_eq_false_iff, slashed, ← String.ofList_nil, ne_eq, String.ofList_inj]
  simp

theorem isAbsolute_slashed (n : Nat) : isAbsolute (slashed n) = false := by
  rw [isAbsolute, slashed, String.toList_ofList]
  rfl

theorem isAbsolute_directoryOf_slashed (n : Nat)
    : isAbsolute (directoryOf (slashed n)) = false := by
  rw [directoryOf_slashed, isAbsolute, String.toList_ofList]
  rfl

theorem demandsDirectory_slashed (n : Nat) : demandsDirectory (slashed n) = false := by
  rw [demandsDirectory, segments_slashed, ← List.cons_append, List.getLast?_concat]
  rfl

theorem steps_slashed (n : Nat) : steps (slashed n) = ["a", "b", "d"] := by
  rw [steps, segments_slashed, List.filter_cons, List.filter_append, List.filter_append,
    List.filter_replicate]
  rfl

end Path

/-- Where a path leads from the root that starts at the working directory. -/
theorem fullPath_of_relative {path : String} (h : Path.isAbsolute path = false)
    : fullPath path = "/tmp/.tmp000000/" ++ path := by
  rw [fullPath, h, if_neg Bool.false_ne_true, home]
  simp only [List.cons_append, List.nil_append, String.intercalate_cons_cons,
    String.intercalate_singleton, ← String.append_assoc]
  rfl

/-- A tree with an artifact in two directories. -/
def deepTree : FileTree where
  nodes := [(["a"], .directory), (["a", "b"], .directory),
    (["a", "b", "d"], fileOf (Ledger.new "repo")),
    (["e.json"], .file publicMode Command.sampleEntry.encode.toUTF8)]

/-- The artifact is found under its long path. -/
theorem entryAt_slashed
    : deepTree.entryAt (Path.slashed 4087) = some (fileOf (Ledger.new "repo")) := by
  have short : Path.isShort (Path.slashed 4087) = true := by
    rw [Path.isShort, Path.slashed, Path.utf8ByteSize_slashes]
    decide
  have located : deepTree.locate (Path.slashed 4087) = .ok ["a", "b", "d"] := by
    rw [locate, Path.isNamable_slashed, short, Path.isEmpty_slashed, stepsFromHome?,
      Path.isAbsolute_slashed, Path.steps_slashed]
    rfl
  rw [entryAt, find_of_locate located, Path.demandsDirectory_slashed]
  rfl

/-- There is no room for a temporary file next to the artifact. -/
theorem not_savable_slashed (prepared : FileTree) (target : Place)
    : ¬ Savable deepTree (Path.slashed 4087) prepared target := by
  intro savable
  obtain ⟨place, room⟩ := savable.room
  have crowded
      : Path.isShort
          (fullPath (Path.directoryOf (Path.slashed 4087)) ++ temporaryEnding) = false := by
    rw [Path.isShort, fullPath_of_relative (Path.isAbsolute_directoryOf_slashed 4087),
      String.utf8ByteSize_append, String.utf8ByteSize_append, Path.directoryOf_slashed,
      Path.utf8ByteSize_slashes]
    decide
  rw [freshPlace, crowded] at room
  contradiction

namespace Command

/-- A detection succeeds where an append fails, which prints nothing: the path of the artifact
is so long that no temporary file fits next to it.
-/
theorem detect_without_append
    : let d : DetectOptions := ⟨some (Path.slashed 4087), "e.json", false⟩
      let o : AppendOptions := ⟨d.data, "e.json", none, none, false, false, false⟩
      let detected := execute (m := Unsteady) false .standard (.detect d) ⟨deepTree, [], []⟩
      let appended := execute (m := Unsteady) false .standard (.append o) ⟨deepTree, [], []⟩
      deepTree.entryAt (dataPath .standard d.data)
        = some (.file publicMode (Ledger.run "repo" []).encode.toUTF8)
      ∧ HoldsEntry deepTree d.entry sampleEntry
      ∧ (Ledger.run "repo" []).hasCommit sampleEntry.tool sampleEntry.commit.id = false
      ∧ SameRun d o sampleEntry
      ∧ (∃ shown, detected.1 = .ok shown)
      ∧ (Ending.ofResult appended.1).output ≠ (Ending.ofResult detected.1).output := by
  intro d o
  have valid : Settings.standard.policy.validate = .ok () := by decide +kernel
  have document
      : deepTree.entryAt "e.json" = some (.file publicMode sampleEntry.encode.toUTF8) := by
    rfl
  have given : HoldsEntry deepTree "e.json" sampleEntry :=
    holdsEntry_of_entryAt sampleEntry_valid document
  have holds : HoldsLedger deepTree (dataPath .standard d.data) (Ledger.new "repo") :=
    holdsLedger_of_entryAt (Ledger.valid_run "repo" []) entryAt_slashed
  have detected := detect_steady (w := ⟨deepTree, [], []⟩) false rfl valid given holds
  obtain ⟨new, added⟩
      : ∃ new, (Ledger.new "repo").append (toolFor o sampleEntry) sampleEntry = .ok new :=
    ⟨_, rfl⟩
  obtain ⟨place, fault, failed⟩ := append_unsaved (w := ⟨deepTree, [], []⟩) false rfl valid given
    (.inl holds : Finds deepTree .standard o (Ledger.new "repo")) added not_savable_slashed
  have shown : showReport false false Settings.standard.policy
      ((Ledger.new "repo").analyze "bench" sampleEntry Settings.standard.policy) ≠ "" := by
    decide +kernel
  rw [execute_detect, execute_append]
  refine ⟨entryAt_slashed, given, rfl, ⟨rfl, rfl, rfl, rfl, nofun⟩, ?_⟩
  rw [detected, failed]
  exact ⟨⟨_, rfl⟩, shown.symm⟩

end Command

end PerfLedger
