import PerfLedger.Proofs.Detection.Windows
import PerfLedger.Proofs.Double.Order

/-! Detection is monotone. A higher threshold leaves out alerts and changes none, a higher bound of
failures leaves out failures, and a value that gets worse keeps its alert with no lower ratio.
-/

namespace PerfLedger

-----------------------------------------------------------------------------------------
-- Comparisons
-----------------------------------------------------------------------------------------

/-- An alert as it is for another value. -/
def Alert.withValue (a : Alert) (value : Double) : Alert :=
  { a with newValue := value, ratio := a.direction.ratio a.baseline value }

namespace Policy

/-- How a record compares with the values before it: the alert that is raised if its ratio is
above the threshold, or why there is none to raise.
-/
def weigh (p : Policy) (tool : String) (r : Record) (prior : List Double)
    : Except SkipReason Alert :=
  if prior.isEmpty then .error .noHistory
  else if (p.window prior).length < p.needed then
    .error (.insufficientSamples (p.window prior).length p.needed)
  else
    match p.polarityOf? tool r.name r.unit with
    | none => .error (.unknownPolarity r.unit)
    | some direction =>
        let baseline := Double.mean (p.window prior)
        .ok ⟨r.name, r.unit, baseline, r.value, direction.ratio baseline r.value, direction,
          (p.window prior).length⟩

variable {p : Policy} {tool : String} {r : Record} {prior : List Double} {a : Alert}

/-- A record is judged by comparing its ratio with the threshold. -/
theorem judge_eq_weigh (p : Policy) (tool : String) (r : Record) (prior : List Double)
    : p.judge tool r prior
      = match p.weigh tool r prior with
        | .error reason => .skip reason
        | .ok a => if p.thresholdRatio.lt a.ratio then .alert a else .fine := by
  unfold judge weigh
  split
  · rfl
  · dsimp only
    split
    · rfl
    · cases p.polarityOf? tool r.name r.unit <;> rfl

/-- A record that can be compared has a polarity and a window that is not empty. -/
theorem weigh_eq_ok (weighed : p.weigh tool r prior = .ok a)
    : ∃ direction, p.polarityOf? tool r.name r.unit = some direction ∧ p.window prior ≠ []
        ∧ a = ⟨r.name, r.unit, .mean (p.window prior), r.value,
            direction.ratio (.mean (p.window prior)) r.value, direction,
            (p.window prior).length⟩ := by
  unfold weigh at weighed
  split at weighed
  · contradiction
  · split at weighed
    · contradiction
    next enough =>
      cases resolved : p.polarityOf? tool r.name r.unit with
      | none =>
          rw [resolved] at weighed
          contradiction
      | some direction =>
          rw [resolved] at weighed
          refine ⟨direction, rfl, ?_, (Except.ok.inj weighed).symm⟩
          intro nothing
          rw [nothing] at enough
          exact enough (Nat.lt_of_lt_of_le Nat.one_pos (Nat.le_max_left _ _))

theorem judge_eq_alert
    : p.judge tool r prior = .alert a
      ↔ p.weigh tool r prior = .ok a ∧ p.thresholdRatio.lt a.ratio = true := by
  rw [judge_eq_weigh]
  cases p.weigh tool r prior with
  | error reason => simp
  | ok other =>
      by_cases above : p.thresholdRatio.lt other.ratio = true
      · simp only [if_pos above, Verdict.alert.injEq, Except.ok.injEq]
        exact ⟨fun same => ⟨same, same ▸ above⟩, And.left⟩
      · simp only [if_neg above, reduceCtorEq, Except.ok.injEq, false_iff, not_and]
        rintro rfl
        exact above

/-- Another value is compared with the same baseline. -/
theorem weigh_value (p : Policy) (tool : String) (r : Record) (value : Double) (prior : List Double)
    : p.weigh tool { r with value } prior
      = (fun a => a.withValue value) <$> p.weigh tool r prior := by
  unfold weigh
  split
  · rfl
  · split
    · rfl
    · cases p.polarityOf? tool r.name r.unit <;> rfl

end Policy

-----------------------------------------------------------------------------------------
-- Higher bounds
-----------------------------------------------------------------------------------------

theorem Double.ne_nan_of_isFinite {x : Double} (finite : x.isFinite = true) : x ≠ .nan := by
  rintro rfl
  contradiction

/-- A higher threshold keeps the alerts above it and leaves out no other benchmarks. -/
theorem Policy.judge_raised {p : Policy} {threshold : Double} (tool : String) (r : Record)
    (prior : List Double) (finite : p.thresholdRatio.isFinite = true)
    (raised : threshold.lt p.thresholdRatio = false)
    : let raised := ({ p with thresholdRatio := threshold }).judge tool r prior
      raised.alert? = (p.judge tool r prior).alert?.filter (fun a => threshold.lt a.ratio)
        ∧ raised.skipped? r.name = (p.judge tool r prior).skipped? r.name := by
  have same : ({ p with thresholdRatio := threshold }).weigh tool r prior
      = p.weigh tool r prior := rfl
  simp only [judge_eq_weigh, same]
  cases p.weigh tool r prior with
  | error reason => exact ⟨rfl, rfl⟩
  | ok a =>
      by_cases above : threshold.lt a.ratio = true
      · have lower : p.thresholdRatio.lt a.ratio = true :=
          Double.lt_of_not_lt_of_lt raised above (Double.ne_nan_of_isFinite finite)
        simp [above, lower, Verdict.alert?, Verdict.skipped?, Option.filter]
      · by_cases lower : p.thresholdRatio.lt a.ratio = true <;>
          simp [above, lower, Verdict.alert?, Verdict.skipped?, Option.filter]

/-- The report under a higher threshold. -/
theorem Ledger.analyze_raised {p : Policy} {threshold : Double} (l : Ledger) (tool : String)
    (e : Entry) (finite : p.thresholdRatio.isFinite = true)
    (raised : threshold.lt p.thresholdRatio = false)
    : let raised := l.analyze tool e { p with thresholdRatio := threshold }
      raised.alerts = (l.analyze tool e p).alerts.filter (fun a => threshold.lt a.ratio)
        ∧ raised.skipped = (l.analyze tool e p).skipped := by
  have each (r : Record) :=
    Policy.judge_raised tool r (l.valuesBefore tool e r.name) finite raised
  simp only [alerts_analyze, skipped_analyze, List.filter_filterMap, each]
  exact ⟨trivial, trivial⟩

/-- The failures under a higher bound. -/
theorem Report.failures_raised {p : Policy} {limit : Double} (report : Report)
    (finite : ∀ old, p.failRatio = some old → old.isFinite = true)
    (raised : ∀ old, p.failRatio = some old → limit.lt old = false)
    : report.failures { p with failRatio := some limit }
      = (report.failures p).filter fun a => limit.lt a.ratio := by
  have lower (a : Alert) (above : limit.lt a.ratio = true) : a.isFailure p = true := by
    unfold Alert.isFailure
    cases bound : p.failRatio with
    | none => rfl
    | some old =>
        exact Double.lt_of_not_lt_of_lt (raised old bound) above
          (Double.ne_nan_of_isFinite (finite old bound))
  rw [failures, failures, List.filter_filter]
  refine List.filter_congr fun a _ => ?_
  rw [Alert.isFailure, Bool.eq_iff_iff, Bool.and_eq_true]
  exact ⟨fun above => ⟨above, lower a above⟩, And.left⟩

-----------------------------------------------------------------------------------------
-- Worse values
-----------------------------------------------------------------------------------------

namespace Polarity

variable {direction : Polarity} {baseline value value' : Double}

/-- A value is no better than one before it: not lower where lower is better, and not higher where
higher is better.
-/
def Worsens (direction : Polarity) (value value' : Double) : Prop :=
  match direction with
  | lowerIsBetter => value'.lt value = false
  | higherIsBetter => value.lt value' = false

/-- A ratio is a number when the baseline is. -/
theorem ratio_ne_nan (direction : Polarity) (number : baseline ≠ .nan)
    (finite : value.isFinite = true)
    : direction.ratio baseline value ≠ .nan := by
  have quotient {worse better : Double}
      (divides : better.isZero = false → worse.div better ≠ .nan)
      : (if better.isZero then
          if (Double.zero false).lt worse then .infinite false else .ofNat 1
        else worse.div better) ≠ .nan := by
    split
    · split
      · exact nofun
      · exact Double.ofQuotient_ne_nan _ _ _
    next nonzero => exact divides (Bool.eq_false_iff.mpr nonzero)
  cases direction with
  | higherIsBetter => exact quotient (Double.div_ne_nan number finite)
  | lowerIsBetter =>
      refine quotient fun nonzero => ?_
      cases bounded : baseline.isFinite with
      | true => exact Double.div_ne_nan (Double.ne_nan_of_isFinite finite) bounded nonzero
      | false =>
          cases baseline <;> cases value <;> simp_all [Double.isFinite, Double.div, Double.zero]

/-- A worse value does not lower the ratio. A denominator of zero is either one before and after,
or the value drops to zero and the ratio to a positive baseline becomes infinite.
-/
theorem not_ratio_lt (hb : Double.Alike baseline baseline) (hv : Double.Alike value value)
    (hv' : Double.Alike value' value') (finite : value.isFinite = true)
    (finite' : value'.isFinite = true) (worse : direction.Worsens value value')
    : (direction.ratio baseline value').lt (direction.ratio baseline value) = false := by
  cases direction with
  | lowerIsBetter =>
      simp only [ratio]
      split
      · split
        · exact Double.not_infinite_lt _
        next zero' =>
          have zero : ¬ (Double.zero false).lt value = true := fun positive =>
            zero' (Double.lt_of_lt_of_not_lt positive worse (Double.ne_nan_of_isFinite finite'))
          rw [if_neg zero]
          exact Double.not_lt_self _
      next nonzero =>
        exact Double.not_div_lt_of_numerator hv hv' hb worse finite finite'
          (Bool.eq_false_iff.mpr nonzero)
  | higherIsBetter =>
      simp only [ratio]
      cases zero : value.isZero with
      | true =>
          have zero' : value'.isZero = true :=
            Double.isZero_of_not_lt hv hv' finite finite' worse zero
          rw [zero']
          exact Double.not_lt_self _
      | false =>
          cases zero' : value'.isZero with
          | true =>
              rw [if_pos rfl, if_neg Bool.false_ne_true]
              split
              · exact Double.not_infinite_lt _
              next nothing =>
                exact Double.not_one_lt_div hb (Bool.eq_false_iff.mpr nothing) finite zero
          | false =>
              exact Double.not_div_lt_of_denominator hv hv' hb worse finite finite' zero zero'

end Polarity

-----------------------------------------------------------------------------------------
-- Reports
-----------------------------------------------------------------------------------------

/-- What becomes of a report when the value of one benchmark gets worse. The alert of the benchmark
stays, and stays a failure, with a ratio that is not lower.
-/
structure Report.Worsened (p : Policy) (name : String) (value : Double) (old new : Report)
    : Prop where
  skipped : new.skipped = old.skipped
  others : new.alerts.filter (fun a => a.name != name) = old.alerts.filter (fun a => a.name != name)
  alerted : ∀ a ∈ old.alerts, a.name = name → a.withValue value ∈ new.alerts
  failing : ∀ a ∈ old.failures p, a.name = name → a.withValue value ∈ new.failures p
  ratio : ∀ a ∈ old.alerts, a.name = name → (a.withValue value).ratio.lt a.ratio = false

/-- The alert of a record is raised again for a value whose ratio is not lower. -/
theorem Policy.judge_worse {p : Policy} {tool : String} {r : Record} {prior : List Double}
    {value : Double} {a : Alert}
    (raised : p.judge tool r prior = .alert a)
    (worse : (a.withValue value).ratio.lt a.ratio = false)
    (number : (a.withValue value).ratio ≠ .nan)
    : p.judge tool { r with value } prior = .alert (a.withValue value) := by
  obtain ⟨weighed, above⟩ := judge_eq_alert.mp raised
  refine judge_eq_alert.mpr ⟨?_, Double.lt_of_lt_of_not_lt above worse number⟩
  rw [weigh_value, weighed]
  rfl

/-- Which benchmarks are left out does not depend on the value. -/
theorem Policy.skipped_judge_value (p : Policy) (tool : String) (r : Record) (value : Double)
    (prior : List Double)
    : (p.judge tool { r with value } prior).skipped? r.name
      = (p.judge tool r prior).skipped? r.name := by
  simp only [judge_eq_weigh, weigh_value]
  cases p.weigh tool r prior with
  | error reason => rfl
  | ok a =>
      simp only [Functor.map, Except.map]
      split <;> split <;> rfl

/-- The baseline of a window that is not empty is a number, not below zero. -/
theorem Ledger.Valid.baseline {l : Ledger} (h : l.Valid) {p : Policy} {tool commitId name : String}
    {window : List Double} (look : l.Recent p tool commitId name window) (some : window ≠ [])
    : Double.Alike (.mean window) (.mean window) ∧ Double.mean window ≠ .nan := by
  obtain ⟨numbers, count⟩ := h.recent look
  refine ⟨Double.alike_mean (List.forall₂_same.mpr fun x member => (numbers x member).1) some, ?_⟩
  exact Double.mean_ne_nan numbers some count (by decide)

/-- Measures are numbers that are not below zero. -/
theorem IsMeasure.alike {value : Double} (measure : IsMeasure value)
    : Double.Alike value value := by
  obtain ⟨finite, nonnegative⟩ := measure
  cases value with
  | nan => contradiction
  | infinite => contradiction
  | finite negative size =>
      have zero : negative = true → size.units = 0 := by
        rintro rfl
        simpa [Double.lt, Double.zero, Double.signedUnits, Magnitude.zero] using nonnegative
      exact .finite zero zero

theorem Record.Valid.measure {r : Record} (h : r.Valid) : IsMeasure r.value :=
  ⟨h.finite, h.nonnegative⟩

/-- A worse value does not lower the ratio to the mean of a window. -/
theorem Ledger.Valid.ratio_worse {l : Ledger} (h : l.Valid) {p : Policy}
    {tool commitId name : String} {window : List Double} {direction : Polarity}
    {value value' : Double} (look : l.Recent p tool commitId name window) (some : window ≠ [])
    (measure : IsMeasure value) (measure' : IsMeasure value')
    (worse : direction.Worsens value value')
    : direction.ratio (.mean window) value' ≠ .nan
      ∧ (direction.ratio (.mean window) value').lt (direction.ratio (.mean window) value)
        = false := by
  obtain ⟨alike, number⟩ := h.baseline look some
  exact ⟨direction.ratio_ne_nan number measure'.1,
    Polarity.not_ratio_lt alike measure.alike measure'.alike measure.1 measure'.1 worse⟩

/-- The report after the value of a record got worse. -/
theorem Ledger.Valid.analyze_worse {l : Ledger} (h : l.Valid) {e : Entry} (valid : e.Valid)
    {p : Policy} {tool : String} {r : Record} {before after : List Record} {value : Double}
    {direction : Polarity} (records : e.records = before ++ r :: after) (measure : IsMeasure value)
    (resolved : p.polarityOf? tool r.name r.unit = some direction)
    (worse : direction.Worsens r.value value)
    : Report.Worsened p r.name value (l.analyze tool e p)
        (l.analyze tool { e with records := before ++ { r with value } :: after } p) := by
  let worsened : Entry := { e with records := before ++ { r with value } :: after }
  have own (other : Record) (member : other ∈ e.records) (same : other.name = r.name)
      : other = r :=
    List.inj_on_of_nodup_map valid.distinct member (by simp [records]) same
  -- The alert of the record, before and after.
  have kept {a : Alert} (present : a ∈ (l.analyze tool e p).alerts) (same : a.name = r.name)
      : a.withValue value ∈ (l.analyze tool worsened p).alerts
        ∧ (a.withValue value).ratio ≠ .nan
        ∧ (a.withValue value).ratio.lt a.ratio = false := by
    obtain ⟨other, member, raised⟩ := l.mem_alerts_analyze.mp present
    obtain rfl := own other member (Policy.name_of_alert raised ▸ same)
    obtain ⟨direction', resolved', some, shape⟩ :=
      Policy.weigh_eq_ok (Policy.judge_eq_alert.mp raised).1
    obtain rfl : direction' = direction := Option.some.inj (resolved'.symm.trans resolved)
    have ratios := h.ratio_worse (Ledger.recent_iff.mpr rfl) some
      (valid.records other member).measure measure worse
    subst shape
    refine ⟨l.mem_alerts_analyze.mpr ⟨{ other with value }, by simp [worsened], ?_⟩, ratios⟩
    exact Policy.judge_worse raised ratios.2 ratios.1
  let judge (x : Record) := (p.judge tool x (l.valuesBefore tool e x.name)).alert?
  have others {x : Record} (same : x.name = r.name)
      : (judge x).filter (fun a => a.name != r.name) = none := by
    simp only [judge, Option.filter_eq_none_iff, Verdict.alert?_eq_some]
    intro a raised
    simpa [← same] using Policy.name_of_alert raised
  have without (x : Record) (same : x.name = r.name)
      : ((before ++ x :: after).filterMap judge).filter (fun a => a.name != r.name)
        = ((before ++ after).filterMap judge).filter (fun a => a.name != r.name) := by
    rw [List.filter_filterMap, List.filter_filterMap]
    simp only [List.filterMap_append, List.filterMap_cons, others same]
  refine ⟨?_, ?_, fun a present same => (kept present same).1, ?_,
    fun a present same => (kept present same).2.2⟩
  · simp only [Ledger.skipped_analyze, records, List.filterMap_append, List.filterMap_cons]
    rw [Policy.skipped_judge_value]
    rfl
  · rw [Ledger.alerts_analyze, Ledger.alerts_analyze, records]
    exact (without { r with value } rfl).trans (without r rfl).symm
  · intro a failure same
    obtain ⟨present, failing⟩ := List.mem_filter.mp failure
    obtain ⟨raised, number, ratio⟩ := kept present same
    refine List.mem_filter.mpr ⟨raised, ?_⟩
    unfold Alert.isFailure at failing ⊢
    cases bound : p.failRatio with
    | none => rfl
    | some limit =>
        rw [bound] at failing
        exact Double.lt_of_lt_of_not_lt failing ratio number

/-- Detection is monotone, in every ledger that a run leads to. A higher threshold leaves just the
alerts whose ratio is above it; a higher bound of failures, or one where there was none, leaves just
the failures above it; and a worse value of one benchmark keeps its alert and lets the others be.
-/
theorem Ledger.analyze_monotone {p : Policy} (valid : p.validate = .ok ()) (repoUrl : String)
    (actions : List Action) (tool : String) (e : MadeEntry)
    : let l := run repoUrl actions
      (∀ threshold, threshold.lt p.thresholdRatio = false →
        let raised := { p with thresholdRatio := threshold }
        (l.analyze tool e.1 raised).alerts
            = (l.analyze tool e.1 p).alerts.filter (fun a => threshold.lt a.ratio)
          ∧ (l.analyze tool e.1 raised).skipped = (l.analyze tool e.1 p).skipped)
      ∧ (∀ limit, (∀ old, p.failRatio = some old → limit.lt old = false) →
          let raised := { p with failRatio := some limit }
          (l.analyze tool e.1 raised).failures raised
              = ((l.analyze tool e.1 p).failures p).filter (fun a => limit.lt a.ratio)
            ∧ l.analyze tool e.1 raised = l.analyze tool e.1 p)
      ∧ ∀ before r after value direction,
          e.1.records = before ++ r :: after → IsMeasure value →
          p.polarityOf? tool r.name r.unit = some direction → direction.Worsens r.value value →
          Report.Worsened p r.name value (l.analyze tool e.1 p)
            (l.analyze tool { e.1 with records := before ++ { r with value } :: after } p)
          ∧ ∀ window, l.Recent p tool e.1.commit.id r.name window → window ≠ [] →
              direction.ratio (.mean window) value ≠ .nan
              ∧ (direction.ratio (.mean window) value).lt (direction.ratio (.mean window) r.value)
                = false := by
  have range := Policy.validate_eq_ok_iff.mp valid
  have history := valid_run repoUrl actions
  refine ⟨fun threshold higher => ?_, fun limit higher => ⟨?_, rfl⟩, ?_⟩
  · exact Ledger.analyze_raised _ tool e.1 range.threshold higher
  · exact Report.failures_raised _ range.failRatio higher
  · intro before r after value direction records measure resolved worse
    refine ⟨history.analyze_worse e.2.valid records measure resolved worse, ?_⟩
    intro window look some
    have member : r ∈ e.1.records := by simp [records]
    exact history.ratio_worse look some (e.2.valid.records r member).measure measure worse

/-- A history of ones and a value that gets worse from two to three, at a threshold raised from one
to two and failures from two on.
-/
theorem Ledger.analyze_monotone_single
    : let p : Policy := { Policy.standard with thresholdRatio := .ofNat 1, minSamples := 1 }
      let record (value : Double) : Record := ⟨"b", value, "s", none, none⟩
      let entry (id : String) (value : Double) : Entry :=
        ⟨{ (default : Commit) with id }, 0, "bench", [record value]⟩
      let old := entry "0000000000000000000000000000000000000000" (.ofNat 1)
      let new := entry "1111111111111111111111111111111111111111" (.ofNat 2)
      let worse := entry "1111111111111111111111111111111111111111" (.ofNat 3)
      ∃ (made : old.Made) (_ : new.Made),
        let l := run "repo" [.append "bench" ⟨old, made⟩]
        p.validate = .ok ()
        ∧ (l.analyze "bench" new { p with thresholdRatio := .ofNat 2 }).alerts
          = (l.analyze "bench" new p).alerts.filter (fun a => (Double.ofNat 2).lt a.ratio)
        ∧ (l.analyze "bench" new { p with failRatio := some (.ofNat 2) }).failures
            { p with failRatio := some (.ofNat 2) }
          = ((l.analyze "bench" new p).failures p).filter (fun a => (Double.ofNat 2).lt a.ratio)
        ∧ Report.Worsened p "b" (.ofNat 3) (l.analyze "bench" new p) (l.analyze "bench" worse p)
        ∧ (Polarity.lowerIsBetter.ratio (.mean [.ofNat 1]) (.ofNat 3)).lt
            (Polarity.lowerIsBetter.ratio (.mean [.ofNat 1]) (.ofNat 2))
          = false := by
  intro p record entry old new worse
  have each (value : Double) (made : Record.make "b" value "s" = .ok (record value))
      : ∀ r ∈ [record value], r.Made :=
    List.forall_mem_singleton.mpr (.make made)
  have created : Entry.create old.commit 0 "bench" old.records = .ok old := by decide +kernel
  have offered : Entry.create new.commit 0 "bench" new.records = .ok new := by decide +kernel
  have made : old.Made := .create (by decide) (each _ (by decide +kernel)) created
  have madeNew : new.Made := .create (by decide) (each _ (by decide +kernel)) offered
  have valid : p.validate = .ok () := by decide +kernel
  obtain ⟨threshold, failures, value⟩ :=
    analyze_monotone valid "repo" [.append "bench" ⟨old, made⟩] "bench" ⟨new, madeNew⟩
  have measure : IsMeasure (.ofNat 3) := ⟨by decide +kernel, by decide +kernel⟩
  let two : Record := ⟨"b", .ofNat 2, "s", none, none⟩
  have grown : Polarity.lowerIsBetter.Worsens two.value (.ofNat 3) := by
    simp only [Polarity.Worsens]
    decide +kernel
  have resolved : p.polarityOf? "bench" "b" "s" = some .lowerIsBetter := by decide +kernel
  obtain ⟨worsened, ratio⟩ :=
    value [] two [] (.ofNat 3) .lowerIsBetter rfl measure resolved grown
  have unset : ∀ limit, p.failRatio = some limit → (Double.ofNat 2).lt limit = false :=
    fun limit bound => nomatch (rfl : p.failRatio = none).symm.trans bound
  refine ⟨made, madeNew, valid, (threshold (.ofNat 2) (by decide +kernel)).1,
    (failures (.ofNat 2) unset).1, worsened, ?_⟩
  -- For a value that is not computed, the window is found by unfolding alone.
  have look (x : Double) (made : (entry "0000000000000000000000000000000000000000" x).Made)
      : (run "repo" [.append "bench" ⟨_, made⟩]).Recent p "bench" new.commit.id "b" [x] :=
    recent_iff.mpr rfl
  simpa only [two] using (ratio [.ofNat 1] (look _ made) (by decide)).2

end PerfLedger
