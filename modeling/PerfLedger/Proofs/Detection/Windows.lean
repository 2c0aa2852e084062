import PerfLedger.Proofs.Detection.History
import PerfLedger.Proofs.Detection.Verdicts

/-! Each record is judged by its own recent values. Histories that agree on the last values of a
benchmark give the same judgement of it, whatever else they hold and whatever else is in the entry.
-/

namespace PerfLedger

-----------------------------------------------------------------------------------------
-- Policies
-----------------------------------------------------------------------------------------

/-- A policy in range: its window holds the samples that it needs, of which there is one at
least, and its bounds are finite, that of alerts at least one.
-/
structure Policy.InRange (p : Policy) : Prop where
  window : 0 < p.windowSize
  samples : 0 < p.minSamples
  fits : p.minSamples ≤ p.windowSize
  threshold : p.thresholdRatio.isFinite = true
  atLeastOne : p.thresholdRatio.lt (.ofNat 1) = false
  failRatio : ∀ limit, p.failRatio = some limit → limit.isFinite = true

/-- A policy is accepted exactly if it is in range. -/
theorem Policy.validate_eq_ok_iff {p : Policy} : p.validate = .ok () ↔ p.InRange := by
  have refused {condition : Prop} [Decidable condition] (cause : PolicyError)
      (next : Except PolicyError Unit)
      : (if condition then .error cause else next) = .ok () ↔ ¬ condition ∧ next = .ok () := by
    split <;> simp_all
  unfold validate
  simp only [bind, Except.bind, refused]
  constructor
  · rintro ⟨window, samples, fits, threshold, failRatio⟩
    simp only [Bool.or_eq_true, Bool.not_eq_true', not_or, Bool.not_eq_true,
      Bool.not_eq_false] at threshold
    refine ⟨Nat.pos_of_ne_zero window, Nat.pos_of_ne_zero samples, Nat.not_lt.mp fits,
      threshold.1, threshold.2, fun limit given => ?_⟩
    simp only [given, refused] at failRatio
    simpa using failRatio.1
  · rintro ⟨window, samples, fits, threshold, atLeastOne, failRatio⟩
    refine ⟨Nat.ne_of_gt window, Nat.ne_of_gt samples, Nat.not_lt.mpr fits,
      by simp [threshold, atLeastOne], ?_⟩
    cases given : p.failRatio with
    | none => rfl
    | some limit =>
        simp only [refused, failRatio limit given]
        exact ⟨nofun, rfl⟩

-----------------------------------------------------------------------------------------
-- Recent values
-----------------------------------------------------------------------------------------

/-- The values that a policy looks at for a benchmark of a tool: the last ones that the ledger
has from before a commit, as many as the window takes.
-/
def Ledger.Recent (l : Ledger) (p : Policy) (tool commitId name : String) (window : List Double)
    : Prop :=
  ∃ prior, ValuesBefore commitId name (l.entriesOf tool) prior ∧ p.Window prior window

/-- What a report says of one benchmark. -/
def Report.about (report : Report) (name : String) : Report where
  alerts := report.alerts.filter fun a => a.name == name
  skipped := report.skipped.filter fun s => s.name == name

/-- A window is its own window. -/
theorem Policy.window_window (p : Policy) (prior : List Double)
    : p.window (p.window prior) = p.window prior := by
  have size := (window_iff.mpr (rfl : p.window prior = p.window prior)).size
  rw [window, size, Nat.sub_eq_zero_of_le (Nat.min_le_left _ _), List.drop_zero]

/-- There is a history to look at exactly if the window shows some of it. -/
theorem Policy.isEmpty_window {p : Policy} (positive : 0 < p.windowSize) (prior : List Double)
    : (p.window prior).isEmpty = prior.isEmpty := by
  have size := (window_iff.mpr (rfl : p.window prior = p.window prior)).size
  rw [Bool.eq_iff_iff, List.isEmpty_iff_length_eq_zero, List.isEmpty_iff_length_eq_zero, size]
  omega

/-- Values outside of the window make no difference. -/
theorem Policy.judge_window {p : Policy} (positive : 0 < p.windowSize) (tool : String)
    (r : Record) (prior : List Double)
    : p.judge tool r (p.window prior) = p.judge tool r prior := by
  simp only [judge, isEmpty_window positive, window_window]

theorem Ledger.recent_iff {l : Ledger} {p : Policy} {tool commitId name : String}
    {window : List Double}
    : l.Recent p tool commitId name window
      ↔ window = p.window ((l.pointsBefore tool name commitId).map Prod.snd) := by
  have values := ValuesBefore.of_points commitId name (l.entriesOf tool)
  constructor
  · rintro ⟨prior, before, look⟩
    obtain rfl := values.unique before
    exact Policy.window_iff.mp look
  · intro same
    exact ⟨_, values, Policy.window_iff.mpr same⟩

-----------------------------------------------------------------------------------------
-- Reports on one benchmark
-----------------------------------------------------------------------------------------

/-- An alert is raised under the name of its record. -/
theorem Policy.name_of_alert {p : Policy} {tool : String} {r : Record} {prior : List Double}
    {a : Alert} (raised : p.judge tool r prior = .alert a)
    : a.name = r.name := by
  cases judge_eq_iff.mp raised with
  | alert => rfl

/-- What a report says of a benchmark are the judgements under its name, by induction on all
judgements.
-/
theorem Report.about_ofVerdicts {judged : List (Record × Verdict)}
    (named : ∀ x ∈ judged, ∀ a, x.2 = .alert a → a.name = x.1.name) (name : String)
    : (ofVerdicts judged).about name = ofVerdicts (judged.filter fun x => x.1.name == name) := by
  induction judged with
  | nil => rfl
  | cons x judged ih =>
      obtain ⟨r, verdict⟩ := x
      obtain ⟨namedFirst, namedRest⟩ := List.forall_mem_cons.mp named
      have others := ih namedRest
      rw [ofVerdicts_cons, List.filter_cons]
      cases verdict with
      | fine => split <;> simpa only [ofVerdicts_cons, addVerdict] using others
      | alert a =>
          have own : a.name = r.name := namedFirst a rfl
          by_cases same : r.name = name <;>
            simp [about, addVerdict, ofVerdicts_cons, own, same, ← others]
      | skip reason =>
          by_cases same : r.name = name <;>
            simp [about, addVerdict, ofVerdicts_cons, same, ← others]

/-- Of records with different names only one has its name. -/
theorem filter_name_eq {records : List Record} (distinct : (records.map Record.name).Nodup)
    {r : Record} (member : r ∈ records)
    : records.filter (fun other => other.name == r.name) = [r] := by
  induction records with
  | nil => contradiction
  | cons first records ih =>
      obtain ⟨apart, distinct⟩ := List.nodup_cons.mp distinct
      rcases List.mem_cons.mp member with rfl | later
      · have none : records.filter (fun other => other.name == r.name) = [] := by
          rw [List.filter_eq_nil_iff]
          intro other present same
          exact apart (List.mem_map.mpr ⟨other, present, beq_iff_eq.mp same⟩)
        rw [List.filter_cons, if_pos (beq_self_eq_true r.name), none]
      · have other : ¬ (first.name == r.name) = true := by
          intro same
          exact apart (List.mem_map.mpr ⟨r, later, (beq_iff_eq.mp same).symm⟩)
        rw [List.filter_cons, if_neg other, ih distinct later]

/-- A report says of a benchmark what its record is judged to be. -/
theorem Ledger.about_analyze (l : Ledger) (tool : String) {e : Entry} (valid : e.Valid) {r : Record}
    (member : r ∈ e.records) (p : Policy)
    : (l.analyze tool e p).about r.name
      = .ofVerdicts
          [(r, p.judge tool r ((l.pointsBefore tool r.name e.commit.id).map Prod.snd))] := by
  rw [analyze_eq_ofVerdicts, Report.about_ofVerdicts, List.filter_map]
  · have own := filter_name_eq valid.distinct member
    simp only [Function.comp_def, own, List.map_cons, List.map_nil]
  · intro x judged a raised
    obtain ⟨other, _, rfl⟩ := List.mem_map.mp judged
    exact Policy.name_of_alert raised

/-- Records in another order are reported on in that order. -/
theorem Ledger.analyze_perm (l : Ledger) (tool : String) {e e' : Entry} (p : Policy)
    (commit : e.commit.id = e'.commit.id) (records : e.records.Perm e'.records)
    : (l.analyze tool e p).alerts.Perm (l.analyze tool e' p).alerts
      ∧ (l.analyze tool e p).skipped.Perm (l.analyze tool e' p).skipped := by
  rw [analyze_eq_ofVerdicts, analyze_eq_ofVerdicts, commit]
  exact ⟨(records.map _).filterMap _, (records.map _).filterMap _⟩

-----------------------------------------------------------------------------------------
-- Equal windows
-----------------------------------------------------------------------------------------

namespace Double

/-- Equal numbers that are not below zero are alike. -/
theorem alike_of_equals {x y : Double} (hx : Alike x x) (hy : Alike y y)
    (same : x.equals y = true)
    : Alike x y := by
  cases hx with
  | nan => contradiction
  | infinite =>
      cases hy with
      | nan => contradiction
      | infinite => exact .infinite
      | finite => contradiction
  | finite zero _ =>
      cases hy with
      | nan => contradiction
      | infinite => contradiction
      | finite zero' _ =>
          obtain rfl := (equals_iff_unsigned zero zero').mp same
          exact .finite zero zero'

/-- Lists of equal numbers that are not below zero are alike, by induction on both. -/
theorem forall₂_alike_of_equals {left right : List Double} (hl : ∀ x ∈ left, Alike x x)
    (hr : ∀ x ∈ right, Alike x x) (same : pairwiseSame equals left right = true)
    : List.Forall₂ Alike left right := by
  induction left generalizing right with
  | nil =>
      cases right with
      | nil => exact .nil
      | cons => contradiction
  | cons x left ih =>
      cases right with
      | nil => contradiction
      | cons y right =>
          obtain ⟨first, others⟩ := Bool.and_eq_true_iff.mp same
          obtain ⟨hx, hl⟩ := List.forall_mem_cons.mp hl
          obtain ⟨hy, hr⟩ := List.forall_mem_cons.mp hr
          exact .cons (alike_of_equals hx hy first) (ih hl hr others)

end Double

/-- The values that are looked at in a ledger in order are numbers, not too many to be counted. -/
theorem Ledger.Valid.recent {l : Ledger} (h : l.Valid) {p : Policy} {tool commitId name : String}
    {window : List Double} (look : l.Recent p tool commitId name window)
    : (∀ x ∈ window, Double.Alike x x ∧ x ≠ .nan) ∧ window.length ≤ 2 ^ (7 * 65) := by
  obtain rfl := recent_iff.mp look
  constructor
  · intro x member
    have numbers := alike_of_mem_valuesOf name (h.entriesOf_valid tool)
    have recorded : x ∈ (l.pointsBefore tool name commitId).map Prod.snd :=
      List.mem_of_mem_drop member
    have before := (List.takeWhile_sublist (l := l.entriesOf tool)
      fun e => e.commit.id != commitId).filterMap
        fun e => (e.record? name).map fun r => (e.date, r.value)
    exact numbers x ((before.map Prod.snd).subset recorded)
  · refine (List.drop_sublist _ _).length_le.trans ?_
    rw [List.length_map]
    refine (List.length_filterMap_le _ _).trans ?_
    exact (List.takeWhile_sublist _).length_le.trans (h.length_entriesOf tool)

/-- A record comes to the same in any two ledgers and entries, if the last values before the
entries' commits are the same list: the same alert, the same reason to be left out, or nothing.
Values and records that are only equal as numbers lead to reports that are equal as numbers. And
the order of the records makes no difference but to the order of the report.
-/
theorem Ledger.outcome_of_recent {p : Policy} (valid : p.validate = .ok ()) (tool : String)
    : (∀ (l l' : Ledger) (e e' : MadeEntry) (r : Record) (window : List Double),
        r ∈ e.1.records → r ∈ e'.1.records →
        l.Recent p tool e.1.commit.id r.name window →
        l'.Recent p tool e'.1.commit.id r.name window →
        ∃ verdict,
          (l.analyze tool e.1 p).about r.name = .ofVerdicts [(r, verdict)]
          ∧ (l'.analyze tool e'.1 p).about r.name = .ofVerdicts [(r, verdict)])
      ∧ (∀ (repoUrl repoUrl' : String) (actions actions' : List Action) (e e' : MadeEntry)
          (r r' : Record) (window window' : List Double),
          let l := run repoUrl actions
          let l' := run repoUrl' actions'
          r ∈ e.1.records → r' ∈ e'.1.records → r.same r' = true →
          l.Recent p tool e.1.commit.id r.name window →
          l'.Recent p tool e'.1.commit.id r'.name window' →
          pairwiseSame Double.equals window window' = true →
          ((l.analyze tool e.1 p).about r.name).same ((l'.analyze tool e'.1 p).about r'.name)
            = true)
      ∧ ∀ (l : Ledger) (e e' : Entry), e.commit.id = e'.commit.id → e.records.Perm e'.records →
          (l.analyze tool e p).alerts.Perm (l.analyze tool e' p).alerts
          ∧ (l.analyze tool e p).skipped.Perm (l.analyze tool e' p).skipped := by
  have positive := (Policy.validate_eq_ok_iff.mp valid).window
  have judged {l : Ledger} {e : MadeEntry} {r : Record} {window : List Double}
      (member : r ∈ e.1.records) (look : l.Recent p tool e.1.commit.id r.name window)
      : (l.analyze tool e.1 p).about r.name = .ofVerdicts [(r, p.judge tool r window)] := by
    rw [l.about_analyze tool e.2.valid member, recent_iff.mp look, Policy.judge_window positive]
  refine ⟨?_, ?_, fun l e e' => l.analyze_perm tool p⟩
  · intro l l' e e' r window member member' look look'
    exact ⟨p.judge tool r window, judged member look, judged member' look'⟩
  · intro repoUrl repoUrl' actions actions' e e' r r' window window' l l' member member' same
      look look' equal
    have recent := (valid_run repoUrl actions).recent look
    have recent' := (valid_run repoUrl' actions').recent look'
    have measured := (e.2.valid.records r member).alike
    have measured' := (e'.2.valid.records r' member').alike
    simp only [Record.same, Bool.and_eq_true, beq_iff_eq] at same
    obtain ⟨⟨⟨⟨name, value⟩, unit⟩, -⟩, -⟩ := same
    rw [judged member look, judged member' look']
    have values : List.Forall₂ Double.Alike window window' :=
      Double.forall₂_alike_of_equals (fun x h => (recent.1 x h).1) (fun x h => (recent'.1 x h).1)
        equal
    have verdicts := p.judge_same tool name unit
      (Double.alike_of_equals measured.1 measured'.1 value) measured.2 values recent.1 recent.2
    rw [Report.ofVerdicts_cons, Report.ofVerdicts_cons, name]
    exact Report.same_addVerdict rfl verdicts r'.name

/-- An older value beyond the window, another benchmark of the entry, its commit, the place of the
record and the sign of a zero make no difference.
-/
theorem Ledger.outcome_of_recent_single
    : let p : Policy := { Policy.standard with windowSize := 1, minSamples := 1 }
      let record (name : String) (value : Double) : Record := ⟨name, value, "s", none, none⟩
      let entry (id : String) (records : List Record) : Entry :=
        ⟨{ (default : Commit) with id }, 0, "bench", records⟩
      let one := record "b" (.ofNat 1)
      let old := entry "0000000000000000000000000000000000000000" [one]
      let zero := entry "1111111111111111111111111111111111111111" [record "b" (.zero false)]
      let negative := entry "1111111111111111111111111111111111111111" [record "b" (.zero true)]
      let left := entry "2222222222222222222222222222222222222222" [one, record "c" (.ofNat 1)]
      let right := entry "3333333333333333333333333333333333333333" [record "c" (.ofNat 1), one]
      ∃ (madeOld : old.Made) (madeZero : zero.Made) (madeNegative : negative.Made)
        (_ : left.Made) (_ : right.Made),
        let l := run "repo" [.append "bench" ⟨old, madeOld⟩, .append "bench" ⟨zero, madeZero⟩]
        let l' := run "repo" [.append "bench" ⟨zero, madeZero⟩]
        let signed := run "repo" [.append "bench" ⟨negative, madeNegative⟩]
        p.validate = .ok ()
        ∧ l.Recent p "bench" left.commit.id "b" [.zero false]
        ∧ l'.Recent p "bench" right.commit.id "b" [.zero false]
        ∧ signed.Recent p "bench" right.commit.id "b" [.zero true]
        ∧ (∃ verdict,
            (l.analyze "bench" left p).about "b" = .ofVerdicts [(one, verdict)]
            ∧ (l'.analyze "bench" right p).about "b" = .ofVerdicts [(one, verdict)])
        ∧ ((l.analyze "bench" left p).about "b").same ((signed.analyze "bench" right p).about "b")
          = true
        ∧ (l.analyze "bench" left p).alerts.Perm
            (l.analyze "bench" { left with records := right.records } p).alerts := by
  intro p record entry one old zero negative left right
  have unit : Record.make "b" (.ofNat 1) "s" = .ok one := by decide +kernel
  have more : Record.make "c" (.ofNat 1) "s" = .ok (record "c" (.ofNat 1)) := by decide +kernel
  have plus : Record.make "b" (.zero false) "s" = .ok (record "b" (.zero false)) := rfl
  have minus : Record.make "b" (.zero true) "s" = .ok (record "b" (.zero true)) := rfl
  have made (id : String) {records : List Record} (each : ∀ r ∈ records, r.Made)
      (created : Entry.create (entry id records).commit 0 "bench" records
        = .ok (entry id records))
      : (entry id records).Made :=
    .create (by decide) each created
  have madeOld : old.Made :=
    made _ (List.forall_mem_singleton.mpr (.make unit)) (by decide +kernel)
  have madeZero : zero.Made :=
    made _ (List.forall_mem_singleton.mpr (.make plus)) (by decide +kernel)
  have madeNegative : negative.Made :=
    made _ (List.forall_mem_singleton.mpr (.make minus)) (by decide +kernel)
  have madeLeft : left.Made :=
    made _ (by simpa using ⟨.make unit, .make more⟩) (by decide +kernel)
  have madeRight : right.Made :=
    made _ (by simpa using ⟨.make more, .make unit⟩) (by decide +kernel)
  have valid : p.validate = .ok () := by decide +kernel
  obtain ⟨outcome, equal, order⟩ := outcome_of_recent valid "bench"
  let l := run "repo" [.append "bench" ⟨old, madeOld⟩, .append "bench" ⟨zero, madeZero⟩]
  let l' := run "repo" [.append "bench" ⟨zero, madeZero⟩]
  let signed := run "repo" [.append "bench" ⟨negative, madeNegative⟩]
  have history : l.entriesOf "bench" = [old, zero] := by
    have added : Ledger.extend zero [("bench", [old])] = [("bench", [old, zero])] := by
      simp [Ledger.extend, zero, entry]
    exact congrArg (fun series => (series.lookup "bench").getD []) added
  have look : l.Recent p "bench" left.commit.id "b" [.zero false] := by
    rw [recent_iff, pointsBefore, history]
    rfl
  have look' : l'.Recent p "bench" right.commit.id "b" [.zero false] := recent_iff.mpr rfl
  have lookSigned : signed.Recent p "bench" right.commit.id "b" [.zero true] := recent_iff.mpr rfl
  have first : one ∈ left.records := List.mem_cons_self
  have last : one ∈ right.records := List.mem_cons_of_mem _ List.mem_cons_self
  refine ⟨madeOld, madeZero, madeNegative, madeLeft, madeRight, valid, look, look', lookSigned,
    ?_, ?_, ?_⟩
  · exact outcome l l' ⟨left, madeLeft⟩ ⟨right, madeRight⟩ one _ first last look look'
  · exact equal _ _ _ _ ⟨left, madeLeft⟩ ⟨right, madeRight⟩ one one _ _ first last
      (by decide +kernel) look lookSigned rfl
  · exact (order l left { left with records := right.records } rfl (.swap _ _ _)).1

end PerfLedger
