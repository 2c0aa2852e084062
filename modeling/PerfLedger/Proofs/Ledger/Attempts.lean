import Mathlib.Data.List.Perm.Basic
import Mathlib.Order.Lattice
import PerfLedger.Proofs.Ledger.Series

/-! Entries that are tried one after the other leave the first one of each commit in the series
of each tool. What is refused leaves no trace, and no tool depends on the others.
-/

namespace PerfLedger

-----------------------------------------------------------------------------------------
-- Attempts
-----------------------------------------------------------------------------------------

/-- An attempt to add an entry to the series of a tool. -/
structure Attempt where
  tool : String
  entry : Entry

/-- An entry of the same tool is there for the same commit. -/
def Attempt.Repeats (a : Attempt) (e : Entry) : Prop :=
  e.tool = a.tool ∧ e.commit.id = a.entry.commit.id

/-- The entries that are tried on the series of their own tool, for one tool. -/
def entriesFor (tool : String) (attempts : List Attempt) : List Entry :=
  (attempts.filter fun a => a.tool = tool ∧ a.entry.tool = tool).map Attempt.entry

/-- The first entry of each commit. -/
def firstPerCommit : List Entry → List Entry
  | [] => []
  | e :: rest => e :: (firstPerCommit rest).filter fun later => later.commit.id ≠ e.commit.id

namespace Ledger

/-- The ledger after an attempt. What is refused leaves it as it is. -/
def attempt (l : Ledger) (a : Attempt) : Ledger := (l.append a.tool a.entry).toOption.getD l

/-- The ledger after some attempts. -/
def attemptAll (l : Ledger) (attempts : List Attempt) : Ledger := attempts.foldl attempt l

/-- The entries that are accepted when attempts are made one after the other. -/
def accepted (l : Ledger) : List Attempt → List Entry
  | [] => []
  | a :: attempts =>
      match l.append a.tool a.entry with
      | .ok next => a.entry :: accepted next attempts
      | .error _ => accepted l attempts

variable {l next : Ledger} {a : Attempt} {attempts : List Attempt}

-----------------------------------------------------------------------------------------
-- One attempt
-----------------------------------------------------------------------------------------

theorem attempt_ok (added : l.append a.tool a.entry = .ok next) : l.attempt a = next := by
  rw [attempt, added]
  rfl

theorem attempt_error {cause : AppendError} (refused : l.append a.tool a.entry = .error cause)
    : l.attempt a = l := by
  rw [attempt, refused]
  rfl

/-- Attempts at foreign entries and at commits that are there are the ones refused. -/
theorem append_error_iff
    : (∃ cause, l.append a.tool a.entry = .error cause)
      ↔ (a.entry.tool = a.tool → l.hasCommit a.tool a.entry.commit.id = true) := by
  unfold append
  by_cases own : a.entry.tool = a.tool
  · by_cases repeated : l.hasCommit a.tool a.entry.commit.id = true
    · simp [own, repeated]
    · simp [own, repeated]
  · simp [own]

-----------------------------------------------------------------------------------------
-- Runs of attempts
-----------------------------------------------------------------------------------------

theorem repoUrl_attemptAll : (l.attemptAll attempts).repoUrl = l.repoUrl := by
  fun_induction accepted l attempts with
  | case1 => rfl
  | case2 l a attempts next added ih =>
      obtain ⟨-, -, grown⟩ := append_eq_ok.mp added
      rw [attemptAll, List.foldl_cons, attempt_ok added]
      rw [grown] at ih ⊢
      exact ih
  | case3 l a attempts cause refused ih =>
      rw [attemptAll, List.foldl_cons, attempt_error refused]
      exact ih

theorem sorted_attemptAll (sorted : l.tools.Pairwise (· < ·))
    : (l.attemptAll attempts).tools.Pairwise (· < ·) := by
  fun_induction accepted l attempts with
  | case1 => exact sorted
  | case2 l a attempts next added ih =>
      rw [attemptAll, List.foldl_cons, attempt_ok added]
      exact ih (sorted_append sorted added)
  | case3 l a attempts cause refused ih =>
      rw [attemptAll, List.foldl_cons, attempt_error refused]
      exact ih sorted

/-- No series that attempts leave is empty. -/
theorem nonempty_attemptAll (nonempty : ∀ s ∈ l.series, s.2 ≠ [])
    : ∀ s ∈ (l.attemptAll attempts).series, s.2 ≠ [] := by
  fun_induction accepted l attempts with
  | case1 => exact nonempty
  | case2 l a attempts next added ih =>
      rw [attemptAll, List.foldl_cons, attempt_ok added]
      refine ih ?_
      obtain ⟨-, -, rfl⟩ := append_eq_ok.mp added
      exact forall_mem_extend nonempty (by simp) (by simp)
  | case3 l a attempts cause refused ih =>
      rw [attemptAll, List.foldl_cons, attempt_error refused]
      exact ih nonempty

/-- The last update goes up to the newest accepted entry. -/
theorem lastUpdate_attemptAll
    : (l.attemptAll attempts).lastUpdate
      = ((l.accepted attempts).map Entry.date).foldl max l.lastUpdate := by
  fun_induction accepted l attempts with
  | case1 => rfl
  | case2 l a attempts next added ih =>
      obtain ⟨-, -, grown⟩ := append_eq_ok.mp added
      rw [attemptAll, List.foldl_cons, attempt_ok added]
      rw [attemptAll, grown] at ih
      rw [grown]
      exact ih
  | case3 l a attempts cause refused ih =>
      rw [attemptAll, List.foldl_cons, attempt_error refused]
      exact ih

/-- The series of a tool grows by the accepted entries of that tool. -/
theorem entriesOf_attemptAll (sorted : l.tools.Pairwise (· < ·)) (tool : String)
    : (l.attemptAll attempts).entriesOf tool
      = l.entriesOf tool ++ (l.accepted attempts).filter fun e => e.tool = tool := by
  fun_induction accepted l attempts with
  | case1 => exact (List.append_nil _).symm
  | case2 l a attempts next added ih =>
      obtain ⟨own, -, -⟩ := append_eq_ok.mp added
      have grown := entriesOf_append sorted added tool
      rw [attemptAll] at ih
      rw [attemptAll, List.foldl_cons, attempt_ok added, ih (sorted_append sorted added), grown]
      by_cases here : tool = a.tool
      · simp [here, own]
      · have elsewhere : a.entry.tool ≠ tool := fun same => here (same.symm.trans own)
        simp [here, elsewhere]
  | case3 l a attempts cause refused ih =>
      rw [attemptAll, List.foldl_cons, attempt_error refused]
      exact ih sorted

theorem entriesFor_cons (tool : String)
    : entriesFor tool (a :: attempts)
      = if a.tool = tool ∧ a.entry.tool = tool then a.entry :: entriesFor tool attempts
        else entriesFor tool attempts := by
  by_cases own : a.tool = tool ∧ a.entry.tool = tool
  · simp [entriesFor, own]
  · simp [entriesFor, own]

/-- An accepted entry adds its commit to those of its tool. -/
theorem hasCommit_append {tool : String} {entry : Entry} (sorted : l.tools.Pairwise (· < ·))
    (added : l.append tool entry = .ok next) (other commitId : String)
    : next.hasCommit other commitId
      = (l.hasCommit other commitId || (other == tool && entry.commit.id == commitId)) := by
  rw [hasCommit, entriesOf_append sorted added, hasCommit]
  by_cases here : other = tool
  · simp [here]
  · simp [here]

/-- The entries that are accepted for a tool are the first ones of each commit that was not
there at the start. By induction on the attempts, each of which hides the later ones for its
commit.
-/
theorem filter_accepted (sorted : l.tools.Pairwise (· < ·)) (tool : String)
    : (l.accepted attempts).filter (fun e => e.tool = tool)
      = (firstPerCommit (entriesFor tool attempts)).filter fun e =>
          !l.hasCommit tool e.commit.id := by
  fun_induction accepted l attempts with
  | case1 => rfl
  | case2 l a attempts next added ih =>
      obtain ⟨own, absent, -⟩ := append_eq_ok.mp added
      have known := hasCommit_append sorted added tool
      rw [entriesFor_cons, List.filter_cons, ih (sorted_append sorted added)]
      by_cases here : a.tool = tool
      · subst here
        simp only [own, known, absent, firstPerCommit, and_self, ↓reduceIte, decide_true,
          List.filter_cons, Bool.not_false, List.filter_filter]
        congr 2
        funext e
        grind
      · have elsewhere : (tool == a.tool) = false := beq_eq_false_iff_ne.mpr (Ne.symm here)
        simp [own, known, here, elsewhere]
  | case3 l a attempts cause refused ih =>
      rw [entriesFor_cons, ih sorted]
      split
      next own =>
        obtain ⟨rfl, same⟩ := own
        have repeated := append_error_iff.mp ⟨cause, refused⟩ same
        simp only [firstPerCommit, List.filter_cons, repeated, Bool.not_true,
          Bool.false_eq_true, ↓reduceIte, List.filter_filter]
        congr 1
        funext e
        grind
      next => rfl

-----------------------------------------------------------------------------------------
-- New ledgers
-----------------------------------------------------------------------------------------

/-- In a new ledger the accepted entries are those that the series hold. -/
theorem entriesOf_attemptAll_new (repoUrl tool : String)
    : ((new repoUrl).attemptAll attempts).entriesOf tool
      = ((new repoUrl).accepted attempts).filter fun e => e.tool = tool := by
  rw [entriesOf_attemptAll List.Pairwise.nil]
  rfl

theorem entriesOf_attemptAll_firstPerCommit (repoUrl tool : String)
    : ((new repoUrl).attemptAll attempts).entriesOf tool
      = firstPerCommit (entriesFor tool attempts) := by
  rw [entriesOf_attemptAll_new, filter_accepted List.Pairwise.nil]
  exact List.filter_eq_self.mpr fun _ _ => rfl

/-- A commit is recorded for a tool when an earlier attempt of that tool was accepted for it. -/
theorem hasCommit_attemptAll_new (repoUrl : String) (attempts : List Attempt) (a : Attempt)
    : ((new repoUrl).attemptAll attempts).hasCommit a.tool a.entry.commit.id = true
      ↔ ∃ e ∈ (new repoUrl).accepted attempts, a.Repeats e := by
  rw [hasCommit_iff, entriesOf_attemptAll_new]
  simp [Attempt.Repeats, and_assoc]

/-- Attempts with the same entries for each tool are accepted alike, up to their order. -/
theorem accepted_perm {repoUrl : String} {others : List Attempt}
    (same : ∀ tool, entriesFor tool others = entriesFor tool attempts)
    : ((new repoUrl).accepted others).Perm ((new repoUrl).accepted attempts) := by
  rw [List.perm_iff_count]
  intro e
  have own (list : List Entry) : list.count e = (list.filter fun x => x.tool = e.tool).count e :=
    (List.count_filter (by simp)).symm
  rw [own, own ((new repoUrl).accepted attempts), ← entriesOf_attemptAll_new,
    ← entriesOf_attemptAll_new, entriesOf_attemptAll_firstPerCommit,
    entriesOf_attemptAll_firstPerCommit, same]

/-- Ledgers are the same when they have the same entries for each tool, by the order of their
series.
-/
theorem eq_of_entriesOf {m : Ledger} (hl : l.tools.Pairwise (· < ·))
    (hm : m.tools.Pairwise (· < ·)) (nonempty : ∀ s ∈ l.series, s.2 ≠ [])
    (nonempty' : ∀ s ∈ m.series, s.2 ≠ []) (lastUpdate : l.lastUpdate = m.lastUpdate)
    (repoUrl : l.repoUrl = m.repoUrl) (same : ∀ tool, l.entriesOf tool = m.entriesOf tool)
    : l = m := by
  have found {series : List (String × List Entry)} (nonempty : ∀ s ∈ series, s.2 ≠ [])
      (tool : String)
      : series.lookup tool
        = if (series.lookup tool).getD [] = [] then none
          else some ((series.lookup tool).getD []) := by
    cases held : series.lookup tool with
    | none => rfl
    | some entries => simp [nonempty _ (mem_of_lookup held)]
  have series : l.series = m.series := by
    refine eq_of_lookup hl hm fun tool => ?_
    have entries : (l.series.lookup tool).getD [] = (m.series.lookup tool).getD [] := same tool
    rw [found nonempty, found nonempty', entries]
  cases l
  cases m
  simp_all

/-- Attempts with the same entries for each tool lead to the same ledger. -/
theorem attemptAll_congr (repoUrl : String) {others : List Attempt}
    (same : ∀ tool, entriesFor tool others = entriesFor tool attempts)
    : (new repoUrl).attemptAll others = (new repoUrl).attemptAll attempts := by
  refine eq_of_entriesOf (sorted_attemptAll List.Pairwise.nil)
    (sorted_attemptAll List.Pairwise.nil) (nonempty_attemptAll (List.forall_mem_nil _))
    (nonempty_attemptAll (List.forall_mem_nil _)) ?_ ?_ ?_
  · rw [lastUpdate_attemptAll, lastUpdate_attemptAll]
    exact ((accepted_perm same).map Entry.date).foldl_eq _
  · rw [repoUrl_attemptAll, repoUrl_attemptAll]
  · intro tool
    rw [entriesOf_attemptAll_firstPerCommit, entriesOf_attemptAll_firstPerCommit, same]

/-- A ledger without empty series lists the tools that have entries. -/
theorem mem_tools_iff (nonempty : ∀ s ∈ l.series, s.2 ≠ []) (tool : String)
    : tool ∈ l.tools ↔ l.entriesOf tool ≠ [] := by
  unfold tools entriesOf
  cases held : l.series.lookup tool with
  | none =>
      have absent := List.lookup_eq_none_iff.mp held
      simp only [Option.getD_none, ne_eq, not_true_eq_false, iff_false, List.mem_map]
      rintro ⟨s, member, rfl⟩
      simpa using absent s member
  | some entries =>
      have present := mem_of_lookup held
      simp only [Option.getD_some, nonempty _ present, ne_eq, not_false_eq_true, iff_true]
      exact List.mem_map_of_mem present

/-- On a new ledger an attempt is accepted when the entry is made by the tool and no earlier
entry that was accepted for that tool has the same commit. A foreign entry is refused as
foreign, any other as repeated, and the ledger stays as it is. In the end each tool has the
first of its own entries for each commit, in order, and the last update is the greatest of
zero and the accepted dates. So attempts that are the same for each tool lead to the same
ledger and the same text, however they are interleaved.
-/
theorem attempts_keep_first (repoUrl : String) (attempts : List Attempt)
    : let start := new repoUrl
      let final := start.attemptAll attempts
      (∀ before a,
        let l := start.attemptAll before
        let earlier := start.accepted before
        ((∃ next, l.append a.tool a.entry = .ok next)
          ↔ a.entry.tool = a.tool ∧ ∀ e ∈ earlier, ¬ a.Repeats e)
        ∧ (a.entry.tool ≠ a.tool →
          l.append a.tool a.entry = .error (.toolMismatch a.tool a.entry.tool)
          ∧ l.attempt a = l)
        ∧ (a.entry.tool = a.tool → (∃ e ∈ earlier, a.Repeats e) →
          l.append a.tool a.entry = .error (.duplicateCommit a.tool a.entry.commit.id)
          ∧ l.attempt a = l))
      ∧ (∀ tool, final.entriesOf tool = firstPerCommit (entriesFor tool attempts))
      ∧ (∀ tool, tool ∈ final.tools ↔ final.entriesOf tool ≠ [])
      ∧ final.lastUpdate = ((start.accepted attempts).map Entry.date).foldl max 0
      ∧ final.repoUrl = repoUrl
      ∧ ∀ others,
          (∀ tool, others.filter (fun a => a.tool = tool)
            = attempts.filter fun a => a.tool = tool) →
          start.attemptAll others = final
          ∧ (start.attemptAll others).encode = final.encode := by
  intro start final
  refine ⟨?_, fun tool => entriesOf_attemptAll_firstPerCommit repoUrl tool,
    mem_tools_iff (nonempty_attemptAll (List.forall_mem_nil _)), lastUpdate_attemptAll,
    repoUrl_attemptAll, ?_⟩
  · intro before a l earlier
    have recorded := hasCommit_attemptAll_new repoUrl before a
    refine ⟨?_, ?_, ?_⟩
    · constructor
      · rintro ⟨next, added⟩
        obtain ⟨own, absent, -⟩ := append_eq_ok.mp added
        refine ⟨own, fun e member repeats => ?_⟩
        rw [recorded.mpr ⟨e, member, repeats⟩] at absent
        contradiction
      · rintro ⟨own, fresh⟩
        refine ⟨_, append_eq_ok.mpr ⟨own, Bool.eq_false_of_not_eq_true ?_, rfl⟩⟩
        intro present
        obtain ⟨e, member, repeats⟩ := recorded.mp present
        exact fresh e member repeats
    · intro foreign
      have refused : l.append a.tool a.entry = _ := append_foreign foreign
      exact ⟨refused, attempt_error refused⟩
    · intro own repeats
      have refused : l.append a.tool a.entry = _ := append_repeated own (recorded.mpr repeats)
      exact ⟨refused, attempt_error refused⟩
  · intro others same
    have equal : start.attemptAll others = final := by
      refine attemptAll_congr repoUrl fun tool => ?_
      have own (list : List Attempt)
          : entriesFor tool list = entriesFor tool (list.filter fun a => a.tool = tool) := by
        simp [entriesFor, List.filter_filter, Bool.and_right_comm]
      rw [own, same, ← own]
    exact ⟨equal, congrArg encode equal⟩

end Ledger

end PerfLedger
