import Mathlib.Data.List.Forall2
import PerfLedger.Detection.Analysis

/-! What detection says of an entry, as rules. Each record is judged by the values recorded for
its benchmark before the entry's commit, and the report lists the judgements that matter.
-/

namespace PerfLedger

-----------------------------------------------------------------------------------------
-- Values before a commit
-----------------------------------------------------------------------------------------

/-- The values recorded for a benchmark by the entries before a commit, or by all entries when
the commit is not among them. Entries without the benchmark have none.
-/
inductive ValuesBefore (commitId name : String) : List Entry → List Double → Prop where
  | none : ValuesBefore commitId name [] []
  | stop {e : Entry} {rest : List Entry} (reached : e.commit.id = commitId)
      : ValuesBefore commitId name (e :: rest) []
  | absent {e : Entry} {rest : List Entry} {values : List Double}
      (before : e.commit.id ≠ commitId) (missing : ∀ r ∈ e.records, r.name ≠ name)
      (later : ValuesBefore commitId name rest values)
      : ValuesBefore commitId name (e :: rest) values
  | present {e : Entry} {rest : List Entry} {values : List Double} {others more : List Record}
      {r : Record} (before : e.commit.id ≠ commitId) (records : e.records = others ++ r :: more)
      (missing : ∀ other ∈ others, other.name ≠ name) (named : r.name = name)
      (later : ValuesBefore commitId name rest values)
      : ValuesBefore commitId name (e :: rest) (r.value :: values)

namespace ValuesBefore

/-- The values of points before a commit are the values that precede it, by induction on the
entries.
-/
theorem of_points (commitId name : String) (entries : List Entry)
    : ValuesBefore commitId name entries
        ((Ledger.pointsOf name (entries.takeWhile fun e => e.commit.id != commitId)).map
          Prod.snd) := by
  induction entries with
  | nil => exact .none
  | cons e rest ih =>
      rw [List.takeWhile_cons]
      split
      next before =>
        have before : e.commit.id ≠ commitId := bne_iff_ne.mp before
        unfold Ledger.pointsOf at ih ⊢
        rw [List.filterMap_cons]
        cases found : e.record? name with
        | none =>
            refine .absent before ?_ ih
            simpa [Entry.record?] using found
        | some r =>
            obtain ⟨named, others, more, records, missing⟩ :=
              List.find?_eq_some_iff_append.mp found
            refine .present before records ?_ (beq_iff_eq.mp named) ih
            simpa using missing
      next reached => exact .stop (by simpa using reached)

/-- The values before a commit are determined, by induction on the first derivation. -/
theorem unique {commitId name : String} {entries : List Entry} {values others : List Double}
    (h : ValuesBefore commitId name entries values)
    (h' : ValuesBefore commitId name entries others)
    : values = others := by
  induction h generalizing others with
  | none =>
      cases h' with
      | none => rfl
  | stop reached =>
      cases h' with
      | stop => rfl
      | absent before => exact absurd reached before
      | present before => exact absurd reached before
  | absent before missing _ ih =>
      cases h' with
      | stop reached => exact absurd reached before
      | absent _ _ later => exact ih later
      | present _ records _ named => exact absurd named (missing _ (by simp [records]))
  | @present e rest values first more r before records missing named _ ih =>
      cases h' with
      | stop reached => exact absurd reached before
      | absent _ missing' => exact absurd named (missing' _ (by simp [records]))
      | @present _ _ values' first' more' r' _ records' missing' named' later =>
          have found {list : List Record} (tail : List Record) {s : Record}
              (missing : ∀ other ∈ list, other.name ≠ name) (named : s.name = name)
              : (list ++ s :: tail).find? (fun other => other.name == name) = some s := by
            rw [List.find?_append, List.find?_eq_none.mpr (by simpa using missing)]
            simp [named]
          have same := found more missing named
          rw [← records, records', found more' missing' named'] at same
          rw [Option.some.inj same, ih later]

end ValuesBefore

-----------------------------------------------------------------------------------------
-- Judgements
-----------------------------------------------------------------------------------------

/-- The values that a policy looks at: the last ones, as many as its window takes. -/
structure Policy.Window (p : Policy) (prior window : List Double) : Prop where
  last : window <:+ prior
  size : window.length = min p.windowSize prior.length

namespace Policy

/-- Where a polarity may come from: the benchmark's name, its unit, what the unit tells, and
the agreement for the tool.
-/
def sources (p : Policy) (tool : String) (r : Record) : List (Option Polarity) :=
  [lookup p.overrides r.name, lookup p.unitPolarity r.unit, Polarity.infer? r.unit,
    lookup p.toolPolarity tool]

/-- The first source that has a polarity decides. -/
def Resolves (p : Policy) (tool : String) (r : Record) (direction : Polarity) : Prop :=
  ∃ before after, p.sources tool r = before ++ some direction :: after
    ∧ ∀ source ∈ before, source = none

/-- How a record is judged by the values before it, one rule for each outcome. -/
inductive Judged (p : Policy) (tool : String) (r : Record) (prior : List Double)
    : Verdict → Prop where
  | noHistory (nothing : prior = []) : Judged p tool r prior (.skip .noHistory)
  | tooFew {window : List Double} (something : prior ≠ []) (look : p.Window prior window)
      (few : window.length < max 1 p.minSamples)
      : Judged p tool r prior
        (.skip (.insufficientSamples window.length (max 1 p.minSamples)))
  | unknown {window : List Double} (something : prior ≠ []) (look : p.Window prior window)
      (enough : max 1 p.minSamples ≤ window.length)
      (unresolved : ∀ source ∈ p.sources tool r, source = none)
      : Judged p tool r prior (.skip (.unknownPolarity r.unit))
  | alert {window : List Double} {direction : Polarity} {baseline : Double}
      (something : prior ≠ []) (look : p.Window prior window)
      (enough : max 1 p.minSamples ≤ window.length) (resolved : p.Resolves tool r direction)
      (mean : baseline = (Double.sum window).div (.ofNat window.length))
      (worse : p.thresholdRatio.lt (direction.ratio baseline r.value) = true)
      : Judged p tool r prior
        (.alert ⟨r.name, r.unit, baseline, r.value, direction.ratio baseline r.value, direction,
          window.length⟩)
  | fine {window : List Double} {direction : Polarity} {baseline : Double}
      (something : prior ≠ []) (look : p.Window prior window)
      (enough : max 1 p.minSamples ≤ window.length) (resolved : p.Resolves tool r direction)
      (mean : baseline = (Double.sum window).div (.ofNat window.length))
      (close : p.thresholdRatio.lt (direction.ratio baseline r.value) = false)
      : Judged p tool r prior .fine

variable {p : Policy} {tool : String} {r : Record} {prior window : List Double}

/-- The window is the end of the values that is left when all but `windowSize` are dropped. -/
theorem window_iff : p.Window prior window ↔ window = p.window prior := by
  constructor
  · rintro ⟨last, size⟩
    rw [List.suffix_iff_eq_drop.mp last, size, Policy.window]
    congr 1
    omega
  · rintro rfl
    refine ⟨List.drop_suffix _ _, ?_⟩
    rw [Policy.window, List.length_drop]
    omega

theorem polarityOf?_eq_findSome? (p : Policy) (tool : String) (r : Record)
    : p.polarityOf? tool r.name r.unit = (p.sources tool r).findSome? id := by
  unfold polarityOf? sources
  cases lookup p.overrides r.name <;> cases lookup p.unitPolarity r.unit <;>
    cases Polarity.infer? r.unit <;> cases lookup p.toolPolarity tool <;> rfl

theorem resolves_iff {direction : Polarity}
    : p.Resolves tool r direction ↔ p.polarityOf? tool r.name r.unit = some direction := by
  rw [polarityOf?_eq_findSome?, List.findSome?_eq_some_iff, Resolves]
  constructor
  · rintro ⟨before, after, shape, silent⟩
    exact ⟨before, some direction, after, shape, rfl, silent⟩
  · rintro ⟨before, source, after, shape, told, silent⟩
    obtain rfl : source = some direction := told
    exact ⟨before, after, shape, silent⟩

theorem unresolved_iff
    : (∀ source ∈ p.sources tool r, source = none)
      ↔ p.polarityOf? tool r.name r.unit = none := by
  rw [polarityOf?_eq_findSome?, List.findSome?_eq_none_iff]
  rfl

/-- The judgement that is computed is one by the rules. -/
theorem judged_judge (p : Policy) (tool : String) (r : Record) (prior : List Double)
    : Judged p tool r prior (p.judge tool r prior) := by
  have look : p.Window prior (p.window prior) := window_iff.mpr rfl
  unfold judge
  split
  next nothing => exact .noHistory (List.isEmpty_iff.mp nothing)
  next something =>
    have something : prior ≠ [] := fun nothing => something (List.isEmpty_iff.mpr nothing)
    dsimp only
    split
    next few => exact .tooFew something look few
    next enough =>
      have enough := Nat.not_lt.mp enough
      split
      next unresolved => exact .unknown something look enough (unresolved_iff.mpr unresolved)
      next direction resolved =>
        have resolved := resolves_iff.mpr resolved
        split
        next worse => exact .alert something look enough resolved rfl worse
        next close =>
          exact .fine something look enough resolved rfl (Bool.eq_false_iff.mpr close)

/-- A judgement by the rules is the one that is computed. -/
theorem Judged.judge_eq {verdict : Verdict} (h : Judged p tool r prior verdict)
    : p.judge tool r prior = verdict := by
  have isEmpty (something : prior ≠ []) : prior.isEmpty = false := by simpa using something
  unfold judge
  cases h with
  | noHistory nothing => rw [nothing]; rfl
  | tooFew something look few =>
      obtain rfl := window_iff.mp look
      simp [isEmpty something, needed, few]
  | unknown something look enough unresolved =>
      obtain rfl := window_iff.mp look
      have known := unresolved_iff.mp unresolved
      simp [isEmpty something, needed, Nat.not_lt.mpr enough, known]
  | alert something look enough resolved mean worse =>
      obtain rfl := window_iff.mp look
      have known := resolves_iff.mp resolved
      subst mean
      simp [isEmpty something, needed, Nat.not_lt.mpr enough, known, Double.mean, worse]
  | fine something look enough resolved mean close =>
      obtain rfl := window_iff.mp look
      have known := resolves_iff.mp resolved
      subst mean
      simp [isEmpty something, needed, Nat.not_lt.mpr enough, known, Double.mean, close]

theorem judge_eq_iff {verdict : Verdict}
    : p.judge tool r prior = verdict ↔ Judged p tool r prior verdict :=
  ⟨fun same => same ▸ judged_judge p tool r prior, Judged.judge_eq⟩

end Policy

-----------------------------------------------------------------------------------------
-- Reports
-----------------------------------------------------------------------------------------

namespace Verdict

/-- The alert that a judgement raises. -/
def alert? : Verdict → Option Alert
  | alert a => some a
  | _ => none

theorem alert?_eq_some {verdict : Verdict} {a : Alert}
    : verdict.alert? = some a ↔ verdict = .alert a := by
  cases verdict <;> simp [alert?]

/-- What a judgement of a benchmark adds to those left out. -/
def skipped? (name : String) : Verdict → Option Skipped
  | skip reason => some ⟨name, reason⟩
  | _ => none

end Verdict

namespace Report

/-- The report of some judgements, in the order of the records. -/
def ofVerdicts (judged : List (Record × Verdict)) : Report where
  alerts := judged.filterMap fun (_, verdict) => verdict.alert?
  skipped := judged.filterMap fun (r, verdict) => verdict.skipped? r.name

theorem ofVerdicts_cons (r : Record) (verdict : Verdict) (judged : List (Record × Verdict))
    : ofVerdicts ((r, verdict) :: judged) = (ofVerdicts judged).addVerdict r.name verdict := by
  cases verdict <;> rfl

end Report

/-- An entry is reported on by judging its records in turn. -/
theorem Ledger.analyze_eq_ofVerdicts (l : Ledger) (tool : String) (entry : Entry) (p : Policy)
    : l.analyze tool entry p
      = Report.ofVerdicts
          (entry.records.map fun r =>
            (r, p.judge tool r ((l.pointsBefore tool r.name entry.commit.id).map Prod.snd))) := by
  unfold analyze
  induction entry.records with
  | nil => rfl
  | cons r records ih => rw [List.foldr_cons, List.map_cons, Report.ofVerdicts_cons, ih]

/-- The values recorded for a benchmark before the commit of an entry. -/
def Ledger.valuesBefore (l : Ledger) (tool : String) (e : Entry) (name : String) : List Double :=
  (l.pointsBefore tool name e.commit.id).map Prod.snd

theorem Ledger.alerts_analyze (l : Ledger) (tool : String) (e : Entry) (p : Policy)
    : (l.analyze tool e p).alerts
      = e.records.filterMap fun r => (p.judge tool r (l.valuesBefore tool e r.name)).alert? := by
  rw [analyze_eq_ofVerdicts]
  exact List.filterMap_map

theorem Ledger.skipped_analyze (l : Ledger) (tool : String) (e : Entry) (p : Policy)
    : (l.analyze tool e p).skipped
      = e.records.filterMap fun r =>
          (p.judge tool r (l.valuesBefore tool e r.name)).skipped? r.name := by
  rw [analyze_eq_ofVerdicts]
  exact List.filterMap_map

/-- The alerts are those of the records. -/
theorem Ledger.mem_alerts_analyze (l : Ledger) {tool : String} {e : Entry} {p : Policy} {a : Alert}
    : a ∈ (l.analyze tool e p).alerts
      ↔ ∃ r ∈ e.records, p.judge tool r (l.valuesBefore tool e r.name) = .alert a := by
  simp only [alerts_analyze, List.mem_filterMap, Verdict.alert?_eq_some]

/-- A report is the one of an entry exactly if each of its records is judged, by the rules, by
the values recorded for its benchmark before the entry's commit, and the report holds the
alerts and the benchmarks left out in the order of the records. This is so for any ledger and
any policy, be it in range or not.
-/
theorem Ledger.analyze_eq_iff (l : Ledger) (tool : String) (entry : Entry) (p : Policy)
    (report : Report)
    : l.analyze tool entry p = report
      ↔ ∃ verdicts,
          List.Forall₂
            (fun r verdict => ∃ prior,
              ValuesBefore entry.commit.id r.name (l.entriesOf tool) prior
              ∧ p.Judged tool r prior verdict)
            entry.records verdicts
          ∧ report = Report.ofVerdicts (entry.records.zip verdicts) := by
  let judgeOf (r : Record) : Verdict :=
    p.judge tool r ((l.pointsBefore tool r.name entry.commit.id).map Prod.snd)
  have rule (r : Record) (verdict : Verdict)
      : (∃ prior, ValuesBefore entry.commit.id r.name (l.entriesOf tool) prior
          ∧ p.Judged tool r prior verdict)
        ↔ judgeOf r = verdict := by
    have values := ValuesBefore.of_points entry.commit.id r.name (l.entriesOf tool)
    constructor
    · rintro ⟨prior, values', judged⟩
      obtain rfl := values.unique values'
      exact judged.judge_eq
    · intro same
      exact ⟨_, values, Policy.judge_eq_iff.mp same⟩
  have each (verdicts : List Verdict)
      : List.Forall₂ (fun r verdict => judgeOf r = verdict) entry.records verdicts
        ↔ entry.records.map judgeOf = verdicts := by
    rw [← List.forall₂_eq_eq_eq, List.forall₂_map_left_iff]
  simp only [rule, each]
  rw [analyze_eq_ofVerdicts, List.map_prod_left_eq_zip]
  constructor
  · rintro rfl
    exact ⟨_, rfl, rfl⟩
  · rintro ⟨_, rfl, rfl⟩
    rfl

end PerfLedger
