import PerfLedger.Proofs.Artifact.Overwriting
import PerfLedger.Proofs.Command.Appending

/-! What becomes of an artifact under any sequence of commands that do not force a new one:
its history is only added to, and a file that holds no history keeps its bytes.
-/

namespace PerfLedger

open FileTree Unsteady Artifact

-----------------------------------------------------------------------------------------
-- Longer histories
-----------------------------------------------------------------------------------------

namespace Ledger

/-- A ledger goes on where another one stops: same repository, no earlier last update, no tool
less, and each series starts with the entries that it had, by value.
-/
structure Extends (l m : Ledger) : Prop where
  repoUrl : m.repoUrl = l.repoUrl
  lastUpdate : l.lastUpdate ≤ m.lastUpdate
  tools : ∀ tool ∈ l.tools, tool ∈ m.tools
  series : ∀ tool, ∃ kept later, m.entriesOf tool = kept ++ later
    ∧ pairwiseSame Entry.same (l.entriesOf tool) kept = true

/-- A ledger goes on where another one stops, up to the signs of values. -/
structure Continues (l m : Ledger) : Prop where
  repoUrl : m.repoUrl = l.repoUrl
  lastUpdate : l.lastUpdate ≤ m.lastUpdate
  tools : ∀ tool ∈ l.tools, tool ∈ m.tools
  series : ∀ tool, (l.entriesOf tool).map Entry.unsigned <+: (m.entriesOf tool).map Entry.unsigned

variable {l m n : Ledger}

theorem Continues.refl (l : Ledger) : l.Continues l :=
  ⟨rfl, Int.le_refl _, fun _ member => member, fun _ => List.prefix_rfl⟩

theorem Continues.trans (first : l.Continues m) (second : m.Continues n) : l.Continues n where
  repoUrl := second.repoUrl.trans first.repoUrl
  lastUpdate := Int.le_trans first.lastUpdate second.lastUpdate
  tools := fun tool member => second.tools tool (first.tools tool member)
  series := fun tool => (first.series tool).trans (second.series tool)

/-- A ledger goes on in itself without signs. -/
theorem continues_unsigned (l : Ledger) : l.Continues l.unsigned where
  repoUrl := rfl
  lastUpdate := Int.le_refl _
  tools := by
    intro tool member
    rw [Ledger.tools, Ledger.unsigned, List.map_map]
    exact member
  series := by
    intro tool
    have same
        : (l.unsigned.entriesOf tool).map Entry.unsigned
          = (l.entriesOf tool).map Entry.unsigned := by
      rw [← entriesOf_unsigned, ← entriesOf_unsigned, unsigned_unsigned]
    exact same ▸ List.prefix_rfl

/-- A ledger goes on with an added entry. -/
theorem Valid.continues_append (h : l.Valid) {tool : String} {entry : Entry}
    (added : l.append tool entry = .ok m)
    : l.Continues m := by
  have entries := entriesOf_append h.sorted added
  obtain ⟨-, -, rfl⟩ := append_eq_ok.mp added
  refine ⟨rfl, Int.le_max_left _ _, fun other member => ?_, fun other => ?_⟩
  · rw [Ledger.tools, map_fst_extend]
    exact mem_insertName.mpr (.inr member)
  · rw [entries]
    split
    · rw [List.map_append]
      exact List.prefix_append _ _
    · exact List.prefix_rfl

/-- A ledger in order that goes on up to signs goes on by value. -/
theorem Continues.extends (h : l.Continues m) (hl : l.Valid) (hm : m.Valid) : l.Extends m where
  repoUrl := h.repoUrl
  lastUpdate := h.lastUpdate
  tools := h.tools
  series := by
    intro tool
    obtain ⟨later, shape⟩ := h.series tool
    refine ⟨(m.entriesOf tool).take (l.entriesOf tool).length,
      (m.entriesOf tool).drop (l.entriesOf tool).length, (List.take_append_drop _ _).symm, ?_⟩
    have each (x : Entry) (old : x ∈ l.entriesOf tool) (y : Entry)
        (new : y ∈ (m.entriesOf tool).take (l.entriesOf tool).length)
        : x.same y = true ↔ x.unsigned = y.unsigned :=
      Entry.same_iff_unsigned (hl.entriesOf_valid tool x old)
        (hm.entriesOf_valid tool y (List.mem_of_mem_take new))
    rw [pairwiseSame_iff_map each, List.map_take, ← shape]
    simp

end Ledger

-----------------------------------------------------------------------------------------
-- One command
-----------------------------------------------------------------------------------------

namespace Command

/-- The path that a command is given for its artifact. -/
def data : Command → Option String
  | init o => o.data
  | append o => o.data
  | detect o => o.data
  | series o => o.data
  | status o => o.data

/-- A command that starts a new artifact over one that is there. -/
def IsForced : Command → Prop
  | init o => o.force = true
  | _ => False

/-- A command that shows something and records nothing. -/
def Shows : Command → Prop
  | init _ => False
  | append _ => False
  | detect _ => True
  | series _ => True
  | status _ => True

/-- A command that shows something leaves the tree as it is. -/
theorem Shows.looks {command : Command} (h : command.Shows) (colors : Bool) (s : Settings)
    : Looks (command.execute (m := Unsteady) colors s) := by
  cases command with
  | init o => exact h.elim
  | append o => exact h.elim
  | detect o => exact looks_detect colors s o
  | series o => exact looks_series s o
  | status o => exact looks_status colors s o

/-- What an artifact goes through in one step: everything is kept, or an entry was added to the
ledger that it holds.
-/
inductive Step (path : String) (t t' : FileTree) : Prop where
  | kept (keeps : Keeps t t') : Step path t t'
  | added {old new : Ledger} {tool : String} {entry : Entry} (holds : HoldsLedger t path old)
      (valid : entry.Valid) (grown : old.append tool entry = .ok new)
      (rewritten : Rewritten t path new t') : Step path t t'

/-- A step that changes nothing keeps everything. -/
theorem Step.of_eq {path : String} {t t' : FileTree} (same : t' = t) : Step path t t' :=
  .kept fun _ _ there => same ▸ there

/-- An entry that is read from a document is in order. -/
theorem HoldsEntry.valid {t : FileTree} {path : String} {entry : Entry}
    (h : HoldsEntry t path entry)
    : entry.Valid := by
  obtain ⟨text, -, document⟩ := h
  exact Entry.Made.valid (.decode document)

section

variable {path : String} {mode : Nat} {bytes : ByteArray} {w : World}

/-- What is found where there is a file is a ledger in it. -/
theorem Finds.holdsLedger {t : FileTree} {s : Settings} {o : AppendOptions} {old : Ledger}
    (present : t.entryAt (dataPath s o.data) = some (.file mode bytes)) (finds : Finds t s o old)
    : HoldsLedger t (dataPath s o.data) old := by
  refine finds.resolve_right fun given => ?_
  rw [read_of_entryAt present] at given
  exact nomatch given.1

/-- An append to a file that is there is one step. -/
theorem append_step (colors : Bool) (s : Settings) (o : AppendOptions)
    (present : w.tree.entryAt (dataPath s o.data) = some (.file mode bytes))
    : Step (dataPath s o.data) w.tree (runAppend (m := Unsteady) colors s o w).2.tree := by
  rcases append_cases colors s o w with
    ⟨cause, after, failed, same, -⟩ | ⟨entry, old, new, holds, finds, grown, saved⟩
  · rw [failed]
    exact .of_eq same
  · obtain ⟨-, led⟩ := leads_save_over present new w.looked.looked rfl fun _ _ => trivial
    rw [saved]
    revert led
    rcases save (m := Unsteady) (dataPath s o.data) new w.looked.looked
      with ⟨cause | done, after⟩
    · exact fun keeps => .kept keeps
    · exact fun rewritten => .added (finds.holdsLedger present) holds.valid grown rewritten

/-- The start of an artifact where there is one already changes nothing, unless it is forced. -/
theorem init_present (s : Settings) {o : InitOptions} (plain : ¬ o.force = true)
    (present : (w.tree.entryAt (dataPath s o.data)).isSome = true)
    : runInit (m := Unsteady) s o w
      = (.error
          (if (o.repoUrl.or s.repoUrl).isNone then .urlRequired
            else .storage (.alreadyExists (dataPath s o.data))), w) := by
  have refused : ((w.tree.entryAt (dataPath s o.data)).isSome && !o.force) = true := by
    simp [present, plain]
  rw [runInit_apply]
  cases o.repoUrl.or s.repoUrl with
  | none => rfl
  | some repoUrl =>
      dsimp only
      rw [if_pos refused]
      rfl

/-- A command that is not forced is one step of a file that is there. -/
theorem execute_step {command : Command} (plain : ¬ command.IsForced) (colors : Bool)
    {s : Settings} (aim : dataPath s command.data = path)
    (present : w.tree.entryAt path = some (.file mode bytes))
    : Step path w.tree (command.execute (m := Unsteady) colors s w).2.tree := by
  subst aim
  cases command with
  | init o =>
      have there : (w.tree.entryAt (dataPath s o.data)).isSome = true :=
        Option.isSome_of_eq_some present
      rw [execute_init, init_present s plain there]
      exact .of_eq rfl
  | append o => exact append_step colors s o present
  | detect o => exact .of_eq (looks_detect colors s o w)
  | series o => exact .of_eq (looks_series s o w)
  | status o => exact .of_eq (looks_status colors s o w)

/-- What is found under a path is told by the node there. -/
theorem HoldsText.of_entryAt {t t' : FileTree} {text : String}
    (kept : ∀ node, t.entryAt path = some node → t'.entryAt path = some node)
    (holds : HoldsText t path text)
    : HoldsText t' path text := by
  obtain ⟨bytes, read, decoded⟩ := holds
  obtain ⟨mode, found⟩ := entryAt_of_read read
  exact ⟨bytes, read_of_entryAt (kept _ found), decoded⟩

/-- A path holds one ledger. -/
theorem HoldsLedger.unique {t : FileTree} {l m : Ledger} (h : HoldsLedger t path l)
    (h' : HoldsLedger t path m)
    : l = m := by
  obtain ⟨text, ⟨bytes, read, decoded⟩, holds⟩ := h
  obtain ⟨text', ⟨bytes', read', decoded'⟩, holds'⟩ := h'
  obtain rfl := Except.ok.inj (read.symm.trans read')
  obtain rfl := Except.ok.inj (decoded.symm.trans decoded')
  exact Except.ok.inj (holds.symm.trans holds')

theorem HoldsLedger.valid {t : FileTree} {l : Ledger} (h : HoldsLedger t path l) : l.Valid := by
  obtain ⟨text, -, holds⟩ := h
  exact Ledger.valid_of_decode holds

/-- The file of a ledger in order holds that ledger without signs. -/
theorem holdsLedger_of_entryAt {t : FileTree} {l : Ledger} (valid : l.Valid)
    (found : t.entryAt path = some (.file mode l.encode.toUTF8))
    : HoldsLedger t path l.unsigned :=
  ⟨l.encode, ⟨l.encode.toUTF8, read_of_entryAt found, decodeText_toUTF8 _⟩, valid.decode_encode⟩

/-- A ledger goes on in every step. -/
theorem Step.holds {t t' : FileTree} (step : Step path t t') {l : Ledger}
    (holds : HoldsLedger t path l)
    : ∃ m, HoldsLedger t' path m ∧ l.Continues m := by
  cases step with
  | kept keeps =>
      obtain ⟨text, held, decoded⟩ := holds
      exact ⟨l, ⟨text, held.of_entryAt fun _ => keeps.entryAt_of_some, decoded⟩, .refl l⟩
  | added holds' valid grown rewritten =>
      obtain rfl := holds.unique holds'
      have longer := holds.valid.append valid grown
      exact ⟨_, holdsLedger_of_entryAt longer rewritten.found,
        (holds.valid.continues_append grown).trans (Ledger.continues_unsigned _)⟩

/-- A file without a ledger is kept in every step. -/
theorem Step.undecodable {t t' : FileTree} (step : Step path t t')
    (present : t.entryAt path = some (.file mode bytes)) (none : ∀ l, ¬ HoldsLedger t path l)
    : t'.entryAt path = some (.file mode bytes) := by
  cases step with
  | kept keeps => exact keeps.entryAt_of_some present
  | added holds => exact absurd holds (none _)

end

end Command

-----------------------------------------------------------------------------------------
-- Whole runs
-----------------------------------------------------------------------------------------

/-- A run of the program works on the artifact at a path, and does not force a new one there. -/
def Aims (path : String) (environment : Environment) (arguments : List String) (w : World)
    : Prop :=
  ∀ invocation, Invocation.ofArguments arguments = .ok invocation →
    ¬ invocation.command.IsForced
    ∧ ∀ s, (Settings.load (m := Unsteady) invocation.config environment w).1 = .ok s →
      Command.dataPath s invocation.command.data = path

/-- A run that names its artifact, and does not force a new one, works on it. -/
theorem aims_of_data {path : String} {environment : Environment} {arguments : List String}
    {w : World} {invocation : Invocation}
    (parsed : Invocation.ofArguments arguments = .ok invocation)
    (plain : ¬ invocation.command.IsForced) (named : invocation.command.data = some path)
    : Aims path environment arguments w := by
  intro other same
  obtain rfl := Except.ok.inj (parsed.symm.trans same)
  exact ⟨plain, fun _ _ => by rw [named]; rfl⟩

/-- A run of the program is one step of a file that is there. -/
theorem run_step {path : String} {environment : Environment} {arguments : List String} {w : World}
    {mode : Nat} {bytes : ByteArray} (aims : Aims path environment arguments w) (colors : Bool)
    (present : w.tree.entryAt path = some (.file mode bytes))
    : Command.Step path w.tree
        (run (m := Unsteady) colors environment arguments w).2.tree := by
  rw [run_apply]
  cases parsed : Invocation.ofArguments arguments with
  | error cause => exact .of_eq rfl
  | ok invocation =>
      obtain ⟨plain, aim⟩ := aims invocation parsed
      have looked := Command.looks_settings invocation.config environment w
      dsimp only
      revert aim looked
      rcases Settings.load (m := Unsteady) invocation.config environment w with ⟨cause | s, after⟩
      · exact fun _ looked => .of_eq looked
      · intro aim looked
        have same : after.tree = w.tree := looked
        rw [← same] at present ⊢
        exact Command.execute_step plain colors (aim s rfl) present

/-- A run records an entry where nothing slips and the artifact can be saved. -/
theorem run_append_recorded (colors : Bool) (environment : Environment) {arguments : List String}
    {w : World} {config : Option String} {format : LogFormat} {verbosity : Nat}
    {o : AppendOptions} (s : Settings) {entry : Entry} {old new : Ledger} {prepared : FileTree}
    {target : Place}
    (parsed : Invocation.ofArguments arguments = .ok ⟨config, format, verbosity, .append o⟩)
    (loaded : (Settings.load (m := Unsteady) config environment w).1 = .ok s)
    (steady : (Settings.load (m := Unsteady) config environment w).2.slips = [])
    (valid : s.policy.validate = .ok ()) (holds : Command.HoldsEntry w.tree o.entry entry)
    (finds : Command.Finds w.tree s o old)
    (added : old.append (Command.toolFor o entry) entry = .ok new)
    (savable : Savable w.tree (Command.dataPath s o.data) prepared target)
    : (run (m := Unsteady) colors environment arguments w).2.tree
      = prepared.put target (fileOf new) := by
  have looked := Command.looks_settings config environment w
  rw [run_apply, parsed]
  dsimp only
  revert loaded steady looked
  rcases Settings.load (m := Unsteady) config environment w with ⟨cause | found, after⟩
  · exact nofun
  · intro loaded steady looked
    obtain rfl := Except.ok.inj loaded
    have same : after.tree = w.tree := looked
    rw [← same] at holds finds savable
    exact (Command.append_recorded colors steady valid holds finds added savable).2

/-- The worlds that are reached from a world by runs that work on one artifact. In between,
others may change any file but the artifact and those that they leave alone.
-/
inductive Reaches (path : String) (alone : List String) (start : World) : World → Prop where
  | refl : Reaches path alone start start
  | run {w : World} (colors : Bool) (environment : Environment) (arguments : List String)
      (reached : Reaches path alone start w) (aims : Aims path environment arguments w)
      : Reaches path alone start (PerfLedger.run (m := Unsteady) colors environment arguments w).2
  | others {w : World} (t : FileTree) (reached : Reaches path alone start w)
      (same : ∀ file ∈ path :: alone, t.entryAt file = w.tree.entryAt file)
      : Reaches path alone start { w with tree := t }

section

variable {path : String} {alone : List String} {start w : World}

/-- What holds a ledger is a file. -/
theorem Command.HoldsLedger.present {t : FileTree} {l : Ledger}
    (holds : Command.HoldsLedger t path l)
    : ∃ mode bytes, t.entryAt path = some (.file mode bytes) := by
  obtain ⟨text, ⟨bytes, read, -⟩, -⟩ := holds
  obtain ⟨mode, found⟩ := entryAt_of_read read
  exact ⟨mode, bytes, found⟩

/-- A ledger goes on in every world that is reached, by induction on the runs. -/
theorem Reaches.holds (reached : Reaches path alone start w) {l : Ledger}
    (holds : Command.HoldsLedger start.tree path l)
    : ∃ m, Command.HoldsLedger w.tree path m ∧ l.Continues m := by
  induction reached with
  | refl => exact ⟨l, holds, .refl l⟩
  | run colors environment arguments reached aims ih =>
      obtain ⟨m, holds, longer⟩ := ih
      obtain ⟨mode, bytes, present⟩ := holds.present
      obtain ⟨n, holds, longer'⟩ := (run_step aims colors present).holds holds
      exact ⟨n, holds, longer.trans longer'⟩
  | others t reached same ih =>
      obtain ⟨m, ⟨text, held, decoded⟩, longer⟩ := ih
      refine ⟨m, ⟨text, held.of_entryAt fun node found => ?_, decoded⟩, longer⟩
      exact (same path List.mem_cons_self).trans found

/-- A file without a ledger is there in every world that is reached. -/
theorem Reaches.undecodable (reached : Reaches path alone start w) {mode : Nat}
    {bytes : ByteArray} (present : start.tree.entryAt path = some (.file mode bytes))
    (none : ∀ l, ¬ Command.HoldsLedger start.tree path l)
    : w.tree.entryAt path = some (.file mode bytes) := by
  have empty {t : FileTree} (present' : t.entryAt path = some (.file mode bytes)) (l : Ledger)
      : ¬ Command.HoldsLedger t path l := by
    intro holds
    obtain ⟨text, held, decoded⟩ := holds
    refine none l ⟨text, held.of_entryAt fun node found => ?_, decoded⟩
    exact present.trans (present'.symm.trans found)
  induction reached with
  | refl => exact present
  | run colors environment arguments reached aims ih =>
      exact (run_step aims colors ih).undecodable ih (empty ih)
  | others t reached same ih => exact (same path List.mem_cons_self).trans ih

/-- No sequence of runs without a forced start rewrites history, whatever they are given and
whatever slips. A ledger that is in the artifact goes on in every world that is reached from
there: it keeps its repository, its last update does not go back, and its tools and the entries
of their series stay, by value. A file without a ledger keeps its bytes. The commands that
show something leave the whole tree as it is. The start of an artifact where something is
there already fails and changes nothing: for want of a repository if none is known, else
because of what is there.
-/
theorem Reaches.keeps_history (reached : Reaches path alone start w)
    : (∀ l, Command.HoldsLedger start.tree path l →
        ∃ m, Command.HoldsLedger w.tree path m ∧ l.Extends m)
      ∧ (∀ mode bytes, start.tree.entryAt path = some (.file mode bytes) →
        (∀ l, ¬ Command.HoldsLedger start.tree path l) →
        w.tree.entryAt path = some (.file mode bytes))
      ∧ ∀ colors environment arguments invocation,
          Invocation.ofArguments arguments = .ok invocation →
          let ended := PerfLedger.run (m := Unsteady) colors environment arguments w
          (invocation.command.Shows → ended.2.tree = w.tree)
          ∧ ∀ o s, invocation.command = .init o → ¬ o.force = true →
              (Settings.load (m := Unsteady) invocation.config environment w).1 = .ok s →
              (w.tree.entryAt (Command.dataPath s o.data)).isSome = true →
              ended.2.tree = w.tree
              ∧ ended.1 = .failed
                (if (o.repoUrl.or s.repoUrl).isNone then .urlRequired
                  else .storage (.alreadyExists (Command.dataPath s o.data))) := by
  refine ⟨fun l holds => ?_, fun mode bytes => reached.undecodable, ?_⟩
  · obtain ⟨m, holds', longer⟩ := reached.holds holds
    exact ⟨m, holds', longer.extends holds.valid holds'.valid⟩
  · intro colors environment arguments invocation parsed
    have looked := Command.looks_settings invocation.config environment w
    dsimp only
    rw [run_apply, parsed]
    dsimp only
    revert looked
    rcases Settings.load (m := Unsteady) invocation.config environment w with ⟨cause | s, after⟩
    · exact fun looked => ⟨fun _ => looked, fun _ _ _ _ loaded => absurd loaded (by simp)⟩
    · intro looked
      have same : after.tree = w.tree := looked
      refine ⟨fun shows => (shows.looks colors s after).trans same, ?_⟩
      intro o s' command plain loaded there
      obtain rfl := Except.ok.inj loaded
      rw [← same] at there
      have ended := Command.init_present s plain there
      rw [command]
      dsimp only [Command.execute]
      rw [ended]
      exact ⟨same, rfl⟩

end

/-- A tree with the artifact of a ledger and the document of an entry. -/
def withDocument (l : Ledger) (entry : Entry) : FileTree where
  nodes := [(["data.js"], fileOf l), (["e.json"], .file publicMode entry.encode.toUTF8)]

theorem entryAt_withDocument (l : Ledger) (entry : Entry)
    : (withDocument l entry).entryAt "data.js" = some (fileOf l) :=
  rfl

theorem holdsEntry_withDocument (l : Ledger) {entry : Entry} (valid : entry.Valid)
    : Command.HoldsEntry (withDocument l entry) "e.json" entry.unsigned :=
  Command.holdsEntry_of_entryAt valid rfl

theorem savable_withDocument (l : Ledger) (entry : Entry)
    : Savable (withDocument l entry) "data.js" (withDocument l entry) ["data.js"] :=
  ⟨rfl, ⟨_, rfl⟩, rfl, rfl, by simp [node?, withDocument]⟩

/-- A world with an artifact of one entry and the document of another one. -/
def sampleWorld : World where
  tree :=
    withDocument (.annotated [0] (.zero false) (Double.isFiniteNonnegative_zero false))
      (.annotated 1 (.zero false))
  slips := []
  seen := []

/-- An artifact holds one entry. Its start for another repository fails, an append records a second
entry, others remove the document of that entry, and the status is shown: the history goes on.
-/
theorem Reaches.keeps_history_appended
    : let begun := PerfLedger.run (m := Unsteady) false []
        ["init", "--data", "data.js", "--repo-url", "other"] sampleWorld
      let appended := PerfLedger.run (m := Unsteady) false []
        ["append", "--data", "data.js", "--entry", "e.json"] begun.2
      let removed : World :=
        ⟨appended.2.tree.erase ["e.json"], appended.2.slips, appended.2.seen⟩
      let shown := PerfLedger.run (m := Unsteady) false []
        ["status", "--data", "data.js", "--detailed"] removed
      begun.1 = .failed (.storage (.alreadyExists "data.js"))
      ∧ begun.2.tree = sampleWorld.tree
      ∧ shown.2.tree = removed.tree
      ∧ ∃ m, Command.HoldsLedger shown.2.tree "data.js" m
        ∧ (Ledger.annotated [0] (.zero false) rfl).Extends m
        ∧ m.size = 2 := by
  have begins
      : Invocation.ofArguments ["init", "--data", "data.js", "--repo-url", "other"]
        = .ok ⟨none, .text, 0, .init ⟨some "data.js", some "other", false⟩⟩ := by rfl
  have appends
      : Invocation.ofArguments ["append", "--data", "data.js", "--entry", "e.json"]
        = .ok ⟨none, .text, 0,
          .append ⟨some "data.js", "e.json", none, none, false, false, false⟩⟩ := by rfl
  have shows
      : Invocation.ofArguments ["status", "--data", "data.js", "--detailed"]
        = .ok ⟨none, .text, 0, .status ⟨some "data.js", true⟩⟩ := by rfl
  have start : Reaches "data.js" [] sampleWorld sampleWorld := .refl
  have begun := start.run false [] _ (aims_of_data begins Bool.false_ne_true rfl)
  have appended := begun.run false [] _ (aims_of_data appends id rfl)
  -- What is in the two files, before and after the entry is recorded.
  have holds : Command.HoldsLedger sampleWorld.tree "data.js" (.annotated [0] (.zero false) rfl) :=
    Command.holdsLedger_of_entryAt (Ledger.valid_run _ _) (entryAt_withDocument _ _)
  have given : Command.HoldsEntry sampleWorld.tree "e.json" (.annotated 1 (.zero false)) :=
    holdsEntry_withDocument _ (MadeEntry.annotated 1 (.zero false) rfl).2.valid
  have savable : Savable sampleWorld.tree "data.js" sampleWorld.tree ["data.js"] :=
    savable_withDocument _ _
  have added
      : (Ledger.annotated [0] (.zero false) rfl).append "bench" (.annotated 1 (.zero false))
        = .ok (.annotated [0, 1] (.zero false) rfl) := rfl
  obtain ⟨unchanged, failed⟩ := (start.keeps_history.2.2 false [] _ _ begins).2 _ .standard rfl
    Bool.false_ne_true (by decide +kernel) rfl
  have held := holds
  rw [← unchanged] at held given savable
  have saved := run_append_recorded false [] .standard appends (by decide +kernel)
    (by decide +kernel) (by decide +kernel) given (.inl held) added savable
  rw [unchanged] at saved
  have left
      : ((sampleWorld.tree.put ["data.js"] (fileOf (.annotated [0, 1] (.zero false) rfl))).erase
          ["e.json"]).entryAt "data.js"
        = some (fileOf (.annotated [0, 1] (.zero false) rfl)) := rfl
  have same
      : ∀ file ∈ ["data.js"],
          ((sampleWorld.tree.put ["data.js"] (fileOf (.annotated [0, 1] (.zero false) rfl))).erase
            ["e.json"]).entryAt file
          = (sampleWorld.tree.put ["data.js"]
              (fileOf (.annotated [0, 1] (.zero false) rfl))).entryAt file :=
    List.forall_mem_singleton.mpr rfl
  rw [← saved] at left same
  have removed := appended.others _ same
  have kept := (removed.keeps_history.2.2 false [] _ _ shows).1 trivial
  obtain ⟨m, there, longer⟩ :=
    (removed.run false [] _ (aims_of_data shows id rfl)).keeps_history.1 _ holds
  have whole : m = .annotated [0, 1] (.zero false) rfl := by
    rw [kept] at there
    exact there.unique (Command.holdsLedger_of_entryAt (Ledger.valid_run _ _) left)
  exact ⟨failed, unchanged, kept, m, there, longer, by rw [whole]; rfl⟩
/-- A tree with an artifact that has no entries yet. -/
def sampleArtifact : FileTree := ⟨[(["data.js"], fileOf (Ledger.new "repo"))]⟩

/-- Where an artifact is already, its start fails for want of a repository if none is known,
and not because of the artifact.
-/
theorem init_without_repository
    : let ended :=
        run (m := Unsteady) false [] ["init", "--data", "data.js"] ⟨sampleArtifact, [], []⟩
      (sampleArtifact.entryAt "data.js").isSome = true
      ∧ ended.1 = .failed .urlRequired
      ∧ ended.1 ≠ .failed (.storage (.alreadyExists "data.js")) := by
  decide +kernel

end PerfLedger
