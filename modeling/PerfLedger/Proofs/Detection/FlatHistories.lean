import PerfLedger.Proofs.Detection.Worsening
import PerfLedger.Proofs.Double.RepeatedSums
import PerfLedger.Proofs.Ledger.Attempts

/-! Histories of equal values. A record with the value that its benchmark always had is no alert, as
long as the values can be added up and the threshold leaves room for the rounding of their mean.
-/

namespace PerfLedger

-----------------------------------------------------------------------------------------
-- Thresholds
-----------------------------------------------------------------------------------------

/-- A bound is above one by `count` parts in `2 ^ 52` of itself, or more. -/
def Double.Clears (bound : Double) (count : Nat) : Prop :=
  match bound with
  | .finite false size => 2 ^ 52 * unitsPerOne ≤ (2 ^ 52 - count) * size.units
  | _ => False

instance : (bound : Double) → (count : Nat) → Decidable (bound.Clears count)
  | .finite false size, count =>
      inferInstanceAs (Decidable (2 ^ 52 * unitsPerOne ≤ (2 ^ 52 - count) * size.units))
  | .finite true _, _ => inferInstanceAs (Decidable False)
  | .infinite _, _ => inferInstanceAs (Decidable False)
  | .nan, _ => inferInstanceAs (Decidable False)

-- The presets leave room for their windows.
example : ∀ p ∈ [Policy.standard, .strict, .permissive], p.thresholdRatio.Clears p.windowSize := by
  decide +kernel

namespace Double

variable {bound : Double} {count : Nat} {worse better : Magnitude}

theorem clears_iff
    : bound.Clears count
      ↔ ∃ size : Magnitude, bound = .finite false size
          ∧ 2 ^ 52 * unitsPerOne ≤ (2 ^ 52 - count) * size.units := by
  unfold Clears
  split
  · simp
  next other => exact iff_of_false id fun ⟨_, same, _⟩ => other _ same

/-- A quotient of numbers that are near each other is not above a bound that leaves room. -/
theorem Clears.not_lt_div (clear : bound.Clears count) (nonzero : better.units ≠ 0)
    (near : (2 ^ 52 - count) * worse.units ≤ 2 ^ 52 * better.units)
    : bound.lt ((finite false worse).div (finite false better)) = false := by
  obtain ⟨size, rfl, room⟩ := clears_iff.mp clear
  have below : worse.units * unitsPerOne ≤ size.units * better.units := by
    refine Nat.le_of_mul_le_mul_left ?_ (Nat.two_pow_pos 52)
    calc 2 ^ 52 * (worse.units * unitsPerOne)
        = 2 ^ 52 * unitsPerOne * worse.units := by ring
      _ ≤ (2 ^ 52 - count) * size.units * worse.units := Nat.mul_le_mul_right _ room
      _ = size.units * ((2 ^ 52 - count) * worse.units) := by ring
      _ ≤ size.units * (2 ^ 52 * better.units) := Nat.mul_le_mul_left _ near
      _ = 2 ^ 52 * (size.units * better.units) := by ring
  rw [← ofQuotient_units size]
  simp only [div, if_neg nonzero, bne_self_eq_false]
  refine not_ofQuotient_lt (Bool.noConfusion ·) (Bool.noConfusion ·) ?_
  exact nearestUnits_mono (Nat.pos_of_ne_zero nonzero) Nat.one_pos (by simpa using below)

/-- A bound that leaves room is for fewer numbers than there are parts. -/
theorem Clears.count_lt (clear : bound.Clears count) : count < 2 ^ 52 := by
  obtain ⟨size, -, room⟩ := clears_iff.mp clear
  refine Nat.lt_of_not_le fun many => ?_
  rw [Nat.sub_eq_zero_of_le many, Nat.zero_mul] at room
  have positive : 0 < 2 ^ 52 * unitsPerOne := Nat.mul_pos (Nat.two_pow_pos 52) unitsPerOne_pos
  exact absurd room (Nat.not_le.mpr positive)

/-- What is near zero is zero. -/
theorem units_eq_zero_of_near (few : count < 2 ^ 52) (zero : better.units = 0)
    (near : (2 ^ 52 - count) * worse.units ≤ 2 ^ 52 * better.units)
    : worse.units = 0 := by
  rw [zero, Nat.mul_zero] at near
  rcases Nat.mul_eq_zero.mp (Nat.le_zero.mp near) with none | none
  · omega
  · exact none

end Double

namespace Polarity

variable {direction : Polarity} {bound : Double} {count : Nat} {baseline value : Magnitude}

/-- The ratio of a number to itself is one, zero included. -/
theorem ratio_self (direction : Polarity) (size : Magnitude)
    : direction.ratio (.finite false size) (.finite false size) = .ofNat 1 := by
  have quotient
      : (if (Double.finite false size).isZero then
          if (Double.zero false).lt (.finite false size) then .infinite false else .ofNat 1
        else (Double.finite false size).div (.finite false size)) = Double.ofNat 1 := by
    by_cases zero : size.units = 0
    · simp [Double.isZero, Double.lt, Double.zero, Double.signedUnits, zero]
    · have scaled : nearestUnits (size.units * unitsPerOne) size.units
          = nearestUnits (1 * unitsPerOne) 1 := by
        simpa [Nat.mul_comm] using nearestUnits_scale unitsPerOne 1 (Nat.pos_of_ne_zero zero)
      simp only [Double.isZero, beq_iff_eq, zero, if_false, Double.div, bne_self_eq_false]
      rw [Double.ofNat, Double.ofQuotient_congr false scaled]
  cases direction <;> exact quotient

/-- The ratio of numbers that are near each other is not above a bound that leaves room. -/
theorem not_lt_ratio_of_near (direction : Polarity) (clear : bound.Clears count)
    (atLeastOne : bound.lt (.ofNat 1) = false)
    (high : (2 ^ 52 - count) * baseline.units ≤ 2 ^ 52 * value.units)
    (low : (2 ^ 52 - count) * value.units ≤ 2 ^ 52 * baseline.units)
    : bound.lt (direction.ratio (.finite false baseline) (.finite false value)) = false := by
  have quotient {worse better : Magnitude}
      (near : (2 ^ 52 - count) * worse.units ≤ 2 ^ 52 * better.units)
      : bound.lt
          (if (Double.finite false better).isZero then
            if (Double.zero false).lt (.finite false worse) then .infinite false else .ofNat 1
          else (Double.finite false worse).div (.finite false better)) = false := by
    by_cases zero : better.units = 0
    · have none := Double.units_eq_zero_of_near clear.count_lt zero near
      simpa [Double.isZero, Double.lt, Double.zero, Double.signedUnits, Magnitude.zero, zero, none]
        using atLeastOne
    · simpa [Double.isZero, zero] using clear.not_lt_div zero near
  cases direction with
  | higherIsBetter => exact quotient high
  | lowerIsBetter => exact quotient low

end Polarity

-----------------------------------------------------------------------------------------
-- Equal values
-----------------------------------------------------------------------------------------

namespace Double

/-- The numbers of a window that equal a number are copies of it, but for signs of zeros. -/
theorem forall₂_alike_replicate {window : List Double} {negative : Bool} {size : Magnitude}
    (numbers : ∀ x ∈ window, Alike x x) (zero : negative = true → size.units = 0)
    (flat : ∀ x ∈ window, x.equals (.finite negative size) = true)
    : List.Forall₂ Alike window (List.replicate window.length (.finite false size)) := by
  have copy {x : Double} (number : Alike x x) (same : x.equals (.finite negative size) = true)
      : Alike x (.finite false size) := by
    cases alike_of_equals number (.finite zero zero) same with
    | finite zero' _ => exact .finite zero' nofun
  induction window with
  | nil => exact .nil
  | cons x window ih =>
      obtain ⟨number, numbers⟩ := List.forall_mem_cons.mp numbers
      obtain ⟨same, flat⟩ := List.forall_mem_cons.mp flat
      exact .cons (copy number same) (ih numbers flat)

end Double

namespace Polarity

variable {bound : Double} {size : Magnitude} {count : Nat}

/-- The ratio to the mean of equal values in range is not above one, if the values add up exactly,
and never above a bound that leaves room.
-/
theorem not_lt_ratio_flat (direction : Polarity) (positive : 0 < count)
    (counted : count ≤ 2 ^ (7 * 65)) (atLeastOne : bound.lt (.ofNat 1) = false)
    (finite : (Double.sum (List.replicate count (.finite false size))).isFinite = true)
    (room : (∀ k ≤ count, OnGrid (k * size.units)) ∨ bound.Clears count)
    : bound.lt
        (direction.ratio (.mean (List.replicate count (.finite false size))) (.finite false size))
      = false := by
  have value : Double.Alike (.finite false size) (.finite false size) := .finite nofun nofun
  rcases room with exact | clear
  · have same : Double.Alike (.mean (List.replicate count (.finite false size)))
        (.finite false size) := by
      by_cases zero : size.units = 0
      · obtain rfl : size = Magnitude.zero := Magnitude.ext zero
        exact Double.alike_mean_zeros positive counted (by decide)
      · obtain ⟨mean, units, alike⟩ :=
          Double.alike_mean_replicate positive (Double.le_of_onGrid_multiples zero exact) finite
        rw [repeatedSum_eq exact, nearestUnits_mean positive size.onGrid] at units
        rwa [Magnitude.ext units] at alike
    rw [(direction.alike_ratio same value).lt_eq, ratio_self]
    exact atLeastOne
  · have few : count ≤ 2 ^ 53 := clear.count_lt.le.trans (by decide)
    obtain ⟨mean, units, alike⟩ := Double.alike_mean_replicate positive few finite
    obtain ⟨high, low⟩ := mean_near positive size.onGrid
    rw [← units] at high low
    rw [(direction.alike_ratio alike value).lt_eq]
    exact direction.not_lt_ratio_of_near clear atLeastOne high low

/-- The ratio to the mean of values that cannot be added up is infinite where higher is better, and
zero where lower is.
-/
theorem lt_ratio_flat_iff (direction : Polarity) (positive : 0 < count)
    (counted : count ≤ 2 ^ (7 * 65)) (finite : bound.isFinite = true)
    (atLeastOne : bound.lt (.ofNat 1) = false)
    (beyond : (Double.sum (List.replicate count (.finite false size))).isFinite = false)
    : bound.lt
          (direction.ratio (.mean (List.replicate count (.finite false size)))
            (.finite false size))
        = true
      ↔ direction = .higherIsBetter := by
  have value : Double.Alike (.finite false size) (.finite false size) := .finite nofun nofun
  have baseline := Double.alike_mean_infinite positive counted (by decide) beyond
  have nonzero : size.units ≠ 0 := by
    intro zero
    obtain rfl : size = Magnitude.zero := Magnitude.ext zero
    have finite : (Double.sum (List.replicate count (.zero false))).isFinite = true :=
      (Double.alike_sum_zeros count).isFinite_eq
    exact Bool.noConfusion (beyond.symm.trans finite)
  rw [(direction.alike_ratio baseline value).lt_eq]
  cases direction with
  | higherIsBetter =>
      have infinite : higherIsBetter.ratio (.infinite false) (.finite false size)
          = .infinite false := by
        simp [ratio, Double.isZero, nonzero, Double.div]
      rw [infinite]
      refine iff_of_true ?_ rfl
      cases bound with
      | nan => exact Bool.noConfusion finite
      | infinite => exact Bool.noConfusion finite
      | finite => rfl
  | lowerIsBetter =>
      have zero : lowerIsBetter.ratio (.infinite false) (.finite false size) = .zero false := by
        simp [ratio, Double.isZero, Double.div]
      have below : (Double.ofNat 1).lt (.zero false) = false := by decide +kernel
      rw [zero]
      refine iff_of_false (fun above => ?_) (by decide)
      exact absurd (Double.lt_of_lt_of_not_lt above below (Double.ofQuotient_ne_nan _ _ _))
        (Bool.eq_false_iff.mp atLeastOne)

end Polarity

-----------------------------------------------------------------------------------------
-- Alerts
-----------------------------------------------------------------------------------------

/-- A record is an alert exactly if there are enough recent values, its polarity is known, and its
ratio to their mean is above the threshold.
-/
theorem Ledger.alerted_iff {l : Ledger} {p : Policy} {tool : String} {e : Entry} {r : Record}
    {window : List Double} (valid : e.Valid) (member : r ∈ e.records)
    (look : l.Recent p tool e.commit.id r.name window)
    : (∃ a ∈ (l.analyze tool e p).alerts, a.name = r.name)
      ↔ p.needed ≤ window.length
        ∧ ∃ direction, p.polarityOf? tool r.name r.unit = some direction
          ∧ p.thresholdRatio.lt (direction.ratio (.mean window) r.value) = true := by
  have recent : window = p.window (l.valuesBefore tool e r.name) := recent_iff.mp look
  constructor
  · rintro ⟨a, present, same⟩
    obtain ⟨other, belongs, raised⟩ := l.mem_alerts_analyze.mp present
    obtain rfl : other = r :=
      List.inj_on_of_nodup_map valid.distinct belongs member (Policy.name_of_alert raised ▸ same)
    cases Policy.judge_eq_iff.mp raised with
    | alert something look' enough resolved mean worse =>
        obtain rfl := recent.trans (Policy.window_iff.mp look').symm
        subst mean
        exact ⟨enough, _, Policy.resolves_iff.mp resolved, worse⟩
  · rintro ⟨enough, direction, resolved, worse⟩
    have something : l.valuesBefore tool e r.name ≠ [] := by
      intro nothing
      simp [recent, nothing, Policy.window, Policy.needed] at enough
    have judged := Policy.Judged.alert something (Policy.window_iff.mpr recent) enough
      (Policy.resolves_iff.mpr resolved) rfl worse
    exact ⟨_, l.mem_alerts_analyze.mpr ⟨r, member, Policy.judge_eq_iff.mpr judged⟩, rfl⟩

-----------------------------------------------------------------------------------------
-- A fourth value
-----------------------------------------------------------------------------------------

/-- An entry with one record, for a commit of one repeated digit. -/
def Entry.single (digit : Char) (value : Double) (unit : String) : Entry :=
  ⟨{ (default : Commit) with id := String.ofList (List.replicate 40 digit) }, 0, "bench",
    [⟨"b", value, unit, none, none⟩]⟩

theorem Entry.made_single {digit : Char} {value : Double} (known : '0' ≤ digit ∧ digit ≤ '9')
    (measure : IsMeasure value) (unit : String)
    : (Entry.single digit value unit).Made := by
  have commit := isObjectName_replicate known
  have tool : isBlankText "bench" = false := by decide
  have named : isBlankText "b" = false := by decide
  have range : IsInt64 0 := by decide
  refine Entry.made_iff_valid.mpr ⟨tool, commit, range, nofun, by simp [single], ?_⟩
  exact List.forall_mem_singleton.mpr ⟨named, measure.1, measure.2⟩

/-- Before the fourth commit there are three values. -/
theorem valuesBefore_of_singles {l : Ledger} {value : Double} {unit : String}
    (history : l.entriesOf "bench"
      = [.single '0' value unit, .single '1' value unit, .single '2' value unit])
    : l.valuesBefore "bench" (.single '3' value unit) "b" = [value, value, value] := by
  have before : (l.entriesOf "bench").takeWhile
      (fun e => e.commit.id != (Entry.single '3' value unit).commit.id) = l.entriesOf "bench" := by
    rw [history, List.takeWhile_eq_self_iff]
    simp [Entry.single]
  rw [Ledger.valuesBefore, Ledger.pointsBefore, before, history]
  rfl

/-- A value is there for a fourth time, after three commits of which it is all of the window. -/
theorem Ledger.exists_fourth {p : Policy} {value : Double} (measure : IsMeasure value)
    (unit : String) (fits : 3 ≤ p.windowSize)
    : ∃ (actions : List Action) (e : MadeEntry),
        e.1.records = [⟨"b", value, unit, none, none⟩]
        ∧ (run "repo" actions).Recent p "bench" e.1.commit.id "b" [value, value, value] := by
  let entry (digit : Char) (known : '0' ≤ digit ∧ digit ≤ '9') : MadeEntry :=
    ⟨.single digit value unit, Entry.made_single known measure unit⟩
  let actions : List Action :=
    [.append "bench" (entry '0' (by decide)), .append "bench" (entry '1' (by decide)),
      .append "bench" (entry '2' (by decide))]
  have history : (run "repo" actions).entriesOf "bench"
      = [.single '0' value unit, .single '1' value unit, .single '2' value unit] := by
    let attempts : List Attempt :=
      [⟨"bench", .single '0' value unit⟩, ⟨"bench", .single '1' value unit⟩,
        ⟨"bench", .single '2' value unit⟩]
    have own : entriesFor "bench" attempts = attempts.map Attempt.entry := by
      simp [entriesFor, attempts, Entry.single]
    have apart : firstPerCommit (attempts.map Attempt.entry) = attempts.map Attempt.entry := by
      simp [firstPerCommit, attempts, Entry.single]
    have kept : ((Ledger.new "repo").attemptAll attempts).entriesOf "bench"
        = firstPerCommit (entriesFor "bench" attempts) :=
      entriesOf_attemptAll_firstPerCommit "repo" "bench"
    rw [own, apart] at kept
    exact kept
  refine ⟨actions, entry '3' (by decide), rfl, ?_⟩
  have prior := valuesBefore_of_singles history
  rw [valuesBefore] at prior
  rw [recent_iff, prior, Policy.window]
  simp [Nat.sub_eq_zero_of_le fits]

/-- A policy raises an alert for a value that was there all along. -/
def Policy.AlarmsAt (p : Policy) (value : Double) (unit : String) : Prop :=
  ∃ (actions : List Action) (e : MadeEntry) (r : Record) (window : List Double),
    r ∈ e.1.records ∧ r.value = value ∧ r.unit = unit
    ∧ (Ledger.run "repo" actions).Recent p "bench" e.1.commit.id r.name window
    ∧ (∀ x ∈ window, x.equals r.value = true)
    ∧ ∃ a ∈ ((Ledger.run "repo" actions).analyze "bench" e.1 p).alerts, a.name = r.name

theorem Policy.alarmsAt_of_three {p : Policy} {value : Double} {unit : String}
    {direction : Polarity} (measure : IsMeasure value) (fits : 3 ≤ p.windowSize)
    (few : p.needed ≤ 3) (resolved : p.polarityOf? "bench" "b" unit = some direction)
    (worse : p.thresholdRatio.lt (direction.ratio (.mean [value, value, value]) value) = true)
    : p.AlarmsAt value unit := by
  obtain ⟨actions, e, records, look⟩ := Ledger.exists_fourth measure unit fits
  let r : Record := ⟨"b", value, unit, none, none⟩
  have member : r ∈ e.1.records := records ▸ List.mem_singleton_self r
  have same : value.equals value = true :=
    measure.alike.equals (Double.ne_nan_of_isFinite measure.1)
  refine ⟨actions, e, r, _, member, rfl, rfl, look, by simpa using same, ?_⟩
  exact (Ledger.alerted_iff e.2.valid member look).mpr ⟨few, direction, resolved, worse⟩

-----------------------------------------------------------------------------------------
-- Flat histories
-----------------------------------------------------------------------------------------

/-- A record with the value that its benchmark had all over the window is no alert as long as the
values add up to a finite sum and either none of their sums is rounded or the threshold is above one
by more than rounding. Where their sum is beyond the finite numbers, the record is an alert exactly
if higher is better, whatever the threshold.
-/
theorem Ledger.flat_history {p : Policy} (valid : p.validate = .ok ()) (repoUrl : String)
    (actions : List Action) (tool : String) (e : MadeEntry) {r : Record} {window : List Double}
    (member : r ∈ e.1.records)
    (look : (run repoUrl actions).Recent p tool e.1.commit.id r.name window)
    (flat : ∀ x ∈ window, x.equals r.value = true)
    : let report := (run repoUrl actions).analyze tool e.1 p
      ((Double.sum window).isFinite = true →
        (∀ negative size, r.value = .finite negative size →
            ∀ k ≤ window.length, OnGrid (k * size.units))
          ∨ p.thresholdRatio.Clears window.length →
        ∀ a ∈ report.alerts, a.name ≠ r.name)
      ∧ ((Double.sum window).isFinite = false →
          ((∃ a ∈ report.alerts, a.name = r.name)
            ↔ p.needed ≤ window.length
              ∧ p.polarityOf? tool r.name r.unit = some .higherIsBetter)) := by
  intro report
  have range := Policy.validate_eq_ok_iff.mp valid
  obtain ⟨numbers, counted⟩ := (valid_run repoUrl actions).recent look
  obtain ⟨negative, size, value, zero⟩ := (e.2.valid.records r member).value_eq
  rw [value] at flat
  have copies := Double.forall₂_alike_replicate (fun x h => (numbers x h).1) zero flat
  have sums := (Double.alike_sum copies).isFinite_eq
  have alerted := Ledger.alerted_iff e.2.valid member look
  have ratio (direction : Polarity) (positive : 0 < window.length)
      : p.thresholdRatio.lt (direction.ratio (.mean window) r.value)
        = p.thresholdRatio.lt
            (direction.ratio (.mean (List.replicate window.length (.finite false size)))
              (.finite false size)) := by
    have mean := Double.alike_mean copies (List.ne_nil_of_length_pos positive)
    have copy : Double.Alike (.finite negative size) (.finite false size) := .finite zero nofun
    rw [value]
    exact (direction.alike_ratio mean copy).lt_eq _
  have some (enough : p.needed ≤ window.length) : 0 < window.length :=
    (Nat.le_max_left 1 p.minSamples).trans enough
  constructor
  · intro finite room a present same
    obtain ⟨enough, direction, -, worse⟩ := alerted.mp ⟨a, present, same⟩
    rw [ratio direction (some enough)] at worse
    have close := direction.not_lt_ratio_flat (some enough) counted range.atLeastOne
      (sums.symm.trans finite) (room.imp_left fun exact => exact negative size value)
    exact Bool.noConfusion (worse.symm.trans close)
  · intro beyond
    rw [alerted]
    refine and_congr_right fun enough => ?_
    have worse (direction : Polarity) :=
      direction.lt_ratio_flat_iff (some enough) counted range.threshold range.atLeastOne
        (sums.symm.trans beyond)
    simp only [ratio _ (some enough), worse]
    constructor
    · rintro ⟨_, resolved, rfl⟩
      exact resolved
    · intro resolved
      exact ⟨_, resolved, rfl⟩

/-- A one after three ones is no alert, and `2 ^ 1023` after three of them is one. -/
theorem Ledger.flat_history_fourth
    : let one := Double.ofNat 1
      let large := Double.ofNat (2 ^ 1023)
      (∃ (actions : List Action) (e : MadeEntry),
        e.1.records = [⟨"b", one, "s", none, none⟩]
        ∧ (run "repo" actions).Recent .standard "bench" e.1.commit.id "b" [one, one, one]
        ∧ (Double.sum [one, one, one]).isFinite = true
        ∧ Policy.standard.thresholdRatio.Clears 3
        ∧ ∀ a ∈ ((run "repo" actions).analyze "bench" e.1 .standard).alerts, a.name ≠ "b")
      ∧ ∃ (actions : List Action) (e : MadeEntry),
          e.1.records = [⟨"b", large, "ops/s", none, none⟩]
          ∧ (run "repo" actions).Recent .standard "bench" e.1.commit.id "b" [large, large, large]
          ∧ (Double.sum [large, large, large]).isFinite = false
          ∧ ∃ a ∈ ((run "repo" actions).analyze "bench" e.1 .standard).alerts, a.name = "b" := by
  intro one large
  -- For values and policies that are not computed, windows are compared without arithmetic.
  have fourth {p : Policy} {x : Double} (valid : p.validate = .ok ()) (measure : IsMeasure x)
      (unit : String) (three : 3 ≤ p.windowSize)
      : ∃ (actions : List Action) (e : MadeEntry),
          e.1.records = [⟨"b", x, unit, none, none⟩]
          ∧ (run "repo" actions).Recent p "bench" e.1.commit.id "b" [x, x, x]
          ∧ ((Double.sum [x, x, x]).isFinite = true → p.thresholdRatio.Clears 3 →
              ∀ a ∈ ((run "repo" actions).analyze "bench" e.1 p).alerts, a.name ≠ "b")
          ∧ ((Double.sum [x, x, x]).isFinite = false → p.needed ≤ 3 →
              p.polarityOf? "bench" "b" unit = some .higherIsBetter →
              ∃ a ∈ ((run "repo" actions).analyze "bench" e.1 p).alerts, a.name = "b") := by
    obtain ⟨actions, e, records, look⟩ := exists_fourth measure unit three
    let r : Record := ⟨"b", x, unit, none, none⟩
    have member : r ∈ e.1.records := records ▸ List.mem_singleton_self r
    have flat : ∀ y ∈ [x, x, x], y.equals r.value = true := by
      simpa using measure.alike.equals (Double.ne_nan_of_isFinite measure.1)
    obtain ⟨quiet, alarm⟩ := flat_history valid "repo" actions "bench" e member look flat
    exact ⟨actions, e, records, look, fun finite clear => quiet finite (.inr clear),
      fun beyond enough rate => (alarm beyond).mpr ⟨enough, rate⟩⟩
  have valid : Policy.standard.validate = .ok () := by decide +kernel
  have measureOne : IsMeasure one := ⟨by decide +kernel, by decide +kernel⟩
  have measureLarge : IsMeasure large := ⟨by decide +kernel, by decide +kernel⟩
  constructor
  · obtain ⟨actions, e, records, look, quiet, -⟩ := fourth valid measureOne "s" (by decide)
    have finite : (Double.sum [one, one, one]).isFinite = true := by decide +kernel
    exact ⟨actions, e, records, look, finite, by decide +kernel, quiet finite (by decide +kernel)⟩
  · obtain ⟨actions, e, records, look, -, alarm⟩ := fourth valid measureLarge "ops/s" (by decide)
    have beyond : (Double.sum [large, large, large]).isFinite = false := by decide +kernel
    have rate : Policy.standard.polarityOf? "bench" "b" "ops/s" = some .higherIsBetter := by
      decide +kernel
    exact ⟨actions, e, records, look, beyond, alarm beyond (by decide) rate⟩

/-- Two values that raise an alert without a change. Three times `2 ^ 1023` is beyond the finite
numbers, so the mean is infinite; and seven tenths are above the rounded mean of three of them.
-/
theorem Policy.alarmsAt_flat
    : let sharp : Policy := { Policy.standard with thresholdRatio := .ofNat 1 }
      Policy.standard.validate = .ok () ∧ Policy.standard.AlarmsAt (.ofNat (2 ^ 1023)) "ops/s"
      ∧ sharp.validate = .ok () ∧ sharp.AlarmsAt (Policy.tenths 7) "s" := by
  intro sharp
  have large : IsMeasure (.ofNat (2 ^ 1023)) := ⟨by decide +kernel, by decide +kernel⟩
  have small : IsMeasure (Policy.tenths 7) := ⟨by decide +kernel, by decide +kernel⟩
  have rate : Policy.standard.polarityOf? "bench" "b" "ops/s" = some .higherIsBetter := by
    decide +kernel
  have time : sharp.polarityOf? "bench" "b" "s" = some .lowerIsBetter := by decide +kernel
  have overflow : Policy.standard.AlarmsAt (.ofNat (2 ^ 1023)) "ops/s" :=
    alarmsAt_of_three large (by decide) (by decide) rate (by decide +kernel)
  have rounding : sharp.AlarmsAt (Policy.tenths 7) "s" :=
    alarmsAt_of_three small (by decide) (by decide) time (by decide +kernel)
  exact ⟨by decide +kernel, overflow, by decide +kernel, rounding⟩

end PerfLedger
