import PerfLedger.Proofs.Detection.FlatHistories
import PerfLedger.Proofs.Double.Neighbours

/-! What a ratio decides. It is above one exactly for a value strictly worse than its baseline, for
neighbouring and subnormal doubles too, so that nothing else is ever an alert.
-/

namespace PerfLedger

-----------------------------------------------------------------------------------------
-- Comparisons
-----------------------------------------------------------------------------------------

namespace Double

variable {x x' y : Double} {worse better : Magnitude}

theorem Alike.lt_eq_left (h : Alike x x') (bound : Double) : x.lt bound = x'.lt bound := by
  cases h with
  | nan => rfl
  | infinite => rfl
  | finite zero zero' =>
      cases bound <;> simp [Double.lt, signedUnits_eq_units zero, signedUnits_eq_units zero']

/-- Of two numbers that are not equal one is less. -/
theorem equals_iff_not_lt (number : x ≠ .nan) (number' : y ≠ .nan)
    : x.equals y = true ↔ x.lt y = false ∧ y.lt x = false := by
  cases x <;> cases y <;> simp_all [equals, lt]
  · cases ‹Bool› <;> cases ‹Bool› <;> decide
  · omega

theorem Alike.not_lt_zero (h : Alike x x) : x.lt (zero false) = false := by
  cases h with
  | nan => rfl
  | infinite => rfl
  | finite zero =>
      rw [Double.zero, Double.lt, signedUnits_eq_units zero]
      simp [signedUnits, Magnitude.zero]

theorem finite_lt_iff
    : (finite false better).lt (finite false worse) = true ↔ better.units < worse.units := by
  simp [lt, signedUnits]

end Double

-----------------------------------------------------------------------------------------
-- Ratios
-----------------------------------------------------------------------------------------

namespace Polarity

variable {direction : Polarity} {baseline value better worse : Double} {size size' : Magnitude}

/-- A value is worse than a baseline: lower where higher is better, higher where lower is. -/
def StrictlyWorse (direction : Polarity) (baseline value : Double) : Prop :=
  match direction with
  | higherIsBetter => value.lt baseline = true
  | lowerIsBetter => baseline.lt value = true

/-- A ratio is a number, not below zero, that is above, at or below one as the value is worse than
the baseline, equal to it or better.
-/
structure Decides (direction : Polarity) (baseline value : Double) : Prop where
  number : direction.ratio baseline value ≠ .nan
  nonnegative : (direction.ratio baseline value).lt (.zero false) = false
  worse
    : (Double.ofNat 1).lt (direction.ratio baseline value) = true
      ↔ direction.StrictlyWorse baseline value
  equal : (direction.ratio baseline value).equals (.ofNat 1) = true ↔ value.equals baseline = true
  better
    : (direction.ratio baseline value).lt (.ofNat 1) = true
      ↔ direction.StrictlyWorse value baseline

section LowerIsBetter

/-- The ratio of two sizes where lower is better. Where higher is, they change places. -/
theorem one_lt_ratio_iff
    : (Double.ofNat 1).lt (lowerIsBetter.ratio (.finite false size) (.finite false size')) = true
      ↔ size.units < size'.units := by
  by_cases zero : size.units = 0
  · have positive : (Double.zero false).lt (.finite false size') = true ↔ 0 < size'.units :=
      Double.finite_lt_iff
    simp only [ratio, Double.isZero, zero, beq_self_eq_true, if_true]
    split
    next above => exact iff_of_true (by decide +kernel) (positive.mp above)
    next nothing => exact iff_of_false (by decide +kernel) (nothing ∘ positive.mpr)
  · simpa [ratio, Double.isZero, zero] using Double.one_lt_div_iff zero

theorem ratio_lt_one_iff
    : (lowerIsBetter.ratio (.finite false size) (.finite false size')).lt (.ofNat 1) = true
      ↔ size'.units < size.units := by
  by_cases zero : size.units = 0
  · simp only [ratio, Double.isZero, zero, beq_self_eq_true, if_true, Nat.not_lt_zero, iff_false]
    split
    · exact Bool.eq_false_iff.mp (Double.not_infinite_lt _)
    · exact Bool.eq_false_iff.mp (Double.not_lt_self _)
  · simpa [ratio, Double.isZero, zero] using Double.div_lt_one_iff zero

/-- A ratio compares with one as its two numbers compare, of which one may be infinite. -/
theorem ratio_compares (hb : Double.Alike better better) (hw : Double.Alike worse worse)
    (number : better ≠ .nan) (number' : worse ≠ .nan)
    (bounded : better.isFinite = true ∨ worse.isFinite = true)
    : ((Double.ofNat 1).lt (lowerIsBetter.ratio better worse) = true ↔ better.lt worse = true)
      ∧ ((lowerIsBetter.ratio better worse).lt (.ofNat 1) = true ↔ worse.lt better = true) := by
  cases hb with
  | nan => contradiction
  | infinite =>
      cases hw with
      | nan => contradiction
      | infinite => simp [Double.isFinite] at bounded
      | @finite right _ size' zero' =>
          have ratio
              : lowerIsBetter.ratio (.infinite false) (.finite right size') = .zero right := by
            simp [ratio, Double.isZero, Double.div]
          rw [ratio]
          exact ⟨iff_of_false (by cases right <;> decide +kernel) Bool.false_ne_true,
            iff_of_true (by cases right <;> decide +kernel) rfl⟩
  | @finite left _ size zero =>
      cases hw with
      | nan => contradiction
      | infinite =>
          have ratio : lowerIsBetter.ratio (.finite left size) (.infinite false)
              = .infinite false := by
            cases sign : left with
            | false => simp [ratio, Double.isZero, Double.div, Double.zero, Double.lt]
            | true => simp [ratio, Double.isZero, Double.zero, Double.lt, zero sign]
          rw [ratio]
          exact ⟨iff_of_true (by decide +kernel) rfl, iff_of_false (by decide +kernel)
            Bool.false_ne_true⟩
      | @finite right _ size' zero' =>
          have hb : Double.Alike (.finite left size) (.finite false size) := .finite zero (by simp)
          have hw : Double.Alike (.finite right size') (.finite false size') :=
            .finite zero' (by simp)
          have ratio := lowerIsBetter.alike_ratio hb hw
          rw [ratio.lt_eq, ratio.lt_eq_left, hb.lt_eq, hb.lt_eq_left, hw.lt_eq, hw.lt_eq_left,
            Double.finite_lt_iff, Double.finite_lt_iff]
          exact ⟨one_lt_ratio_iff, ratio_lt_one_iff⟩

end LowerIsBetter

/-- The ratio of a measure to a baseline that is not below zero, be it infinite, decides. -/
theorem ratio_decides (direction : Polarity) (hb : Double.Alike baseline baseline)
    (number : baseline ≠ .nan) (measure : IsMeasure value)
    : direction.Decides baseline value := by
  have one : Double.ofNat 1 ≠ .nan := Double.ofQuotient_ne_nan _ _ _
  have number' := Double.ne_nan_of_isFinite measure.1
  have ratio := direction.ratio_ne_nan number measure.1
  obtain ⟨worse, better⟩
      : ((Double.ofNat 1).lt (direction.ratio baseline value) = true
          ↔ direction.StrictlyWorse baseline value)
        ∧ ((direction.ratio baseline value).lt (.ofNat 1) = true
          ↔ direction.StrictlyWorse value baseline) := by
    cases direction with
    | higherIsBetter => exact ratio_compares measure.alike hb number' number (.inl measure.1)
    | lowerIsBetter => exact ratio_compares hb measure.alike number number' (.inr measure.1)
  refine ⟨ratio, (direction.alike_ratio hb measure.alike).not_lt_zero, worse, ?_, better⟩
  rw [Double.equals_iff_not_lt ratio one, Double.equals_iff_not_lt number' number]
  simp only [← Bool.not_eq_true, worse, better]
  cases direction with
  | higherIsBetter => exact and_comm
  | lowerIsBetter => exact Iff.rfl

end Polarity

-----------------------------------------------------------------------------------------
-- Alerts
-----------------------------------------------------------------------------------------

/-- An alert is raised for a record of the entry whose value is worse than the mean of the last
values before it: its ratio is above the threshold, and so above one.
-/
theorem Ledger.Valid.strictlyWorse_of_alert {l : Ledger} (h : l.Valid) {p : Policy}
    (range : p.InRange) {tool : String} {e : Entry} (valid : e.Valid) {a : Alert}
    (raised : a ∈ (l.analyze tool e p).alerts)
    : ∃ r ∈ e.records, ∃ window, l.Recent p tool e.commit.id r.name window
        ∧ a.name = r.name ∧ a.newValue = r.value ∧ a.baseline = .mean window
        ∧ p.polarityOf? tool r.name r.unit = some a.direction
        ∧ a.direction.StrictlyWorse a.baseline a.newValue := by
  obtain ⟨r, member, judged⟩ := l.mem_alerts_analyze.mp raised
  obtain ⟨weighed, above⟩ := Policy.judge_eq_alert.mp judged
  obtain ⟨direction, resolved, some, rfl⟩ := Policy.weigh_eq_ok weighed
  have look : l.Recent p tool e.commit.id r.name (p.window (l.valuesBefore tool e r.name)) :=
    recent_iff.mpr rfl
  obtain ⟨alike, number⟩ := h.baseline look some
  have decides := direction.ratio_decides alike number (valid.records r member).measure
  have one : Double.ofNat 1 ≠ .nan := Double.ofQuotient_ne_nan _ _ _
  have aboveOne := Double.lt_of_not_lt_of_lt range.atLeastOne above one
  exact ⟨r, member, _, look, rfl, rfl, rfl, resolved, decides.worse.mp aboveOne⟩

/-- A ratio is always a number, not below zero; it is above one exactly for a value worse than the
baseline, at one for an equal value, and below one for a better one. An infinite baseline is no
exception, and no other baseline of a finite value is either. So every alert is raised for a value
that is worse than the mean it is compared with.
-/
theorem Ledger.alerts_strictlyWorse
    : (∀ (direction : Polarity) (baseline value : Double),
        IsMeasure baseline → IsMeasure value → direction.Decides baseline value)
      ∧ (∀ (direction : Polarity) (value : Double), value.isFinite = true →
          direction.ratio (.infinite false) value ≠ .nan)
      ∧ (∀ (direction : Polarity) (value : Double), IsMeasure value →
          direction.Decides (.infinite false) value)
      ∧ ∀ (p : Policy), p.validate = .ok () →
          ∀ (repoUrl : String) (actions : List Action) (tool : String) (e : MadeEntry),
          let l := run repoUrl actions
          ∀ a ∈ (l.analyze tool e.1 p).alerts,
            ∃ r ∈ e.1.records, ∃ window, l.Recent p tool e.1.commit.id r.name window
              ∧ a.name = r.name ∧ a.newValue = r.value ∧ a.baseline = .mean window
              ∧ p.polarityOf? tool r.name r.unit = some a.direction
              ∧ a.direction.StrictlyWorse a.baseline a.newValue := by
  refine ⟨fun direction baseline value measure measure' => ?_, fun direction value finite => ?_,
    fun direction value measure => ?_, ?_⟩
  · exact direction.ratio_decides measure.alike (Double.ne_nan_of_isFinite measure.1) measure'
  · exact direction.ratio_ne_nan nofun finite
  · exact direction.ratio_decides .infinite nofun measure
  · intro p valid repoUrl actions tool e l a raised
    exact (valid_run repoUrl actions).strictlyWorse_of_alert (Policy.validate_eq_ok_iff.mp valid)
      e.2.valid raised

/-- Two neighbours, the two least numbers above zero, the two zeros, an infinite baseline, and the
alert on `2 ^ 1023` after three values as large.
-/
theorem Ledger.alerts_strictlyWorse_fourth
    : let least := Double.ofQuotient false 1 1
      let second := Double.ofQuotient false 2 1
      let large := Double.ofNat (2 ^ 1023)
      Polarity.lowerIsBetter.Decides (.ofNat (2 ^ 53 - 1)) (.ofNat (2 ^ 53))
      ∧ Polarity.higherIsBetter.Decides second least
      ∧ Polarity.higherIsBetter.Decides (.zero true) (.zero false)
      ∧ Polarity.higherIsBetter.ratio (.infinite false) (.zero true) ≠ .nan
      ∧ Polarity.lowerIsBetter.Decides (.infinite false) least
      ∧ Policy.standard.validate = .ok ()
      ∧ ∃ (actions : List Action) (e : MadeEntry),
          ∃ a ∈ ((run "repo" actions).analyze "bench" e.1 .standard).alerts,
            ∃ r ∈ e.1.records, a.newValue = r.value ∧ r.value = large
              ∧ a.direction.StrictlyWorse a.baseline a.newValue := by
  intro least second large
  obtain ⟨sizes, number, infinite, alerts⟩ := alerts_strictlyWorse
  have measure : IsMeasure least ∧ IsMeasure second ∧ IsMeasure large :=
    ⟨⟨by decide +kernel, by decide +kernel⟩, ⟨by decide +kernel, by decide +kernel⟩,
      ⟨by decide +kernel, by decide +kernel⟩⟩
  have valid : Policy.standard.validate = .ok () := by decide +kernel
  refine ⟨sizes _ _ _ ⟨by decide +kernel, by decide +kernel⟩ ⟨by decide +kernel, by decide +kernel⟩,
    sizes _ _ _ measure.2.1 measure.1, sizes _ _ _ ⟨rfl, rfl⟩ ⟨rfl, rfl⟩, number _ _ rfl,
    infinite _ _ measure.1, valid, ?_⟩
  -- For a value and a policy that are not computed, nothing is unfolded to find the record.
  have fourth {p : Policy} {x : Double} (valid : p.validate = .ok ()) (measure : IsMeasure x)
      (fits : 3 ≤ p.windowSize) (few : p.needed ≤ 3)
      (rate : p.polarityOf? "bench" "b" "ops/s" = some .higherIsBetter)
      (above : p.thresholdRatio.lt (Polarity.higherIsBetter.ratio (.mean [x, x, x]) x) = true)
      : ∃ (actions : List Action) (e : MadeEntry),
          ∃ a ∈ ((run "repo" actions).analyze "bench" e.1 p).alerts,
            ∃ r ∈ e.1.records, a.newValue = r.value ∧ r.value = x
              ∧ a.direction.StrictlyWorse a.baseline a.newValue := by
    obtain ⟨actions, e, records, look⟩ := exists_fourth measure "ops/s" fits
    let given : Record := ⟨"b", x, "ops/s", none, none⟩
    have member : given ∈ e.1.records := records ▸ List.mem_singleton_self given
    obtain ⟨a, raised, -⟩ := (alerted_iff e.2.valid member look).mpr ⟨few, _, rate, above⟩
    obtain ⟨r, present, -, -, -, value, -, -, worse⟩ :=
      alerts p valid "repo" actions "bench" e a raised
    obtain rfl : r = given := List.mem_singleton.mp (records ▸ present)
    exact ⟨actions, e, a, raised, given, member, value, rfl, worse⟩
  exact fourth valid measure.2.2 (by decide) (by decide) (by decide +kernel) (by decide +kernel)

end PerfLedger
