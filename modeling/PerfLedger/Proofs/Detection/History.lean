import Mathlib.Data.List.Forall2
import PerfLedger.Detection.Equality
import PerfLedger.Proofs.Artifact.RoundTrip
import PerfLedger.Proofs.Ledger.ObjectNames
import PerfLedger.Proofs.Ledger.Series

/-! Detection of a commit depends on the history before it. The entries recorded up to that
commit stay what they are, but for the signs of zeros, and a report does not tell these apart.
-/

namespace PerfLedger

-----------------------------------------------------------------------------------------
-- Values
-----------------------------------------------------------------------------------------

namespace Double

theorem alike_of_unsigned {x y : Double} (hx : Alike x x) (hy : Alike y y)
    (same : x.unsigned = y.unsigned)
    : Alike x y := by
  cases hx with
  | nan =>
      cases hy with
      | nan => exact .nan
      | infinite => contradiction
      | finite => contradiction
  | infinite =>
      cases hy with
      | nan => contradiction
      | infinite => exact .infinite
      | finite => contradiction
  | finite zero _ =>
      cases hy with
      | nan => contradiction
      | infinite => contradiction
      | finite zero' _ =>
          injection same with _ size
          subst size
          exact .finite zero zero'

/-- Lists of values that are not below zero are alike when they are the same without signs, by
induction on both.
-/
theorem forall₂_alike_of_unsigned {left right : List Double} (hl : ∀ x ∈ left, Alike x x)
    (hr : ∀ x ∈ right, Alike x x) (same : left.map unsigned = right.map unsigned)
    : List.Forall₂ Alike left right := by
  induction left generalizing right with
  | nil =>
      obtain rfl := List.map_eq_nil_iff.mp same.symm
      exact .nil
  | cons x left ih =>
      cases right with
      | nil => contradiction
      | cons y right =>
          obtain ⟨first, others⟩ := List.cons_eq_cons.mp same
          obtain ⟨hx, hl⟩ := List.forall_mem_cons.mp hl
          obtain ⟨hy, hr⟩ := List.forall_mem_cons.mp hr
          exact .cons (alike_of_unsigned hx hy first) (ih hl hr others)

end Double

/-- The value of a record in order is a number that is not below zero. -/
theorem Record.Valid.alike {r : Record} (h : r.Valid)
    : Double.Alike r.value r.value ∧ r.value ≠ .nan := by
  obtain ⟨negative, size, value, zero⟩ := h.value_eq
  rw [value]
  exact ⟨.finite zero zero, nofun⟩

/-- Ratios are alike when the values and the baselines are. -/
theorem Polarity.alike_ratio (direction : Polarity) {baseline baseline' value value' : Double}
    (hb : Double.Alike baseline baseline') (hv : Double.Alike value value')
    : Double.Alike (direction.ratio baseline value) (direction.ratio baseline' value') := by
  have quotient {worse worse' better better' : Double} (hw : Double.Alike worse worse')
      (hg : Double.Alike better better')
      : Double.Alike
          (if better.isZero then
            if (Double.zero false).lt worse then .infinite false else .ofNat 1
          else worse.div better)
          (if better'.isZero then
            if (Double.zero false).lt worse' then .infinite false else .ofNat 1
          else worse'.div better') := by
    rw [← hg.isZero_eq, ← hw.lt_eq]
    split
    · split
      · exact .infinite
      · exact Double.alike_ofNat 1
    next nonzero => exact hw.div hg (Bool.eq_false_iff.mpr nonzero)
  cases direction with
  | higherIsBetter => exact quotient hb hv
  | lowerIsBetter => exact quotient hv hb

-----------------------------------------------------------------------------------------
-- Judgements
-----------------------------------------------------------------------------------------

/-- Judgements that are equal by value. -/
inductive Verdict.Same : Verdict → Verdict → Prop where
  | fine : Same .fine .fine
  | alert {a a' : Alert} (same : a.same a' = true) : Same (.alert a) (.alert a')
  | skip (reason : SkipReason) : Same (.skip reason) (.skip reason)

theorem Double.ne_nan_of_lt {bound x : Double} (below : bound.lt x = true) : x ≠ .nan := by
  rintro rfl
  cases bound <;> contradiction

/-- Records that are alike are judged the same by values that are alike. As long as these are
not too many to be counted, no baseline is not-a-number, so that equal baselines are found equal.
-/
theorem Policy.judge_same (p : Policy) (tool : String) {r r' : Record} (name : r.name = r'.name)
    (unit : r.unit = r'.unit) (value : Double.Alike r.value r'.value) (number : r.value ≠ .nan)
    {prior prior' : List Double} (alike : List.Forall₂ Double.Alike prior prior')
    (numbers : ∀ x ∈ prior, Double.Alike x x ∧ x ≠ .nan)
    (count : prior.length ≤ 2 ^ (7 * 65))
    : Verdict.Same (p.judge tool r prior) (p.judge tool r' prior') := by
  have window : List.Forall₂ Double.Alike (p.window prior) (p.window prior') := by
    rw [Policy.window, Policy.window, ← alike.length_eq]
    exact List.forall₂_drop _ alike
  have size : (p.window prior).length = (p.window prior').length := window.length_eq
  have few : (p.window prior).length ≤ 2 ^ (7 * 65) :=
    (List.drop_sublist _ prior).length_le.trans count
  have windowNumbers : ∀ x ∈ p.window prior, Double.Alike x x ∧ x ≠ .nan :=
    fun x member => numbers x (List.mem_of_mem_drop member)
  have empty : prior.isEmpty = prior'.isEmpty := by
    rw [Bool.eq_iff_iff, List.isEmpty_iff_length_eq_zero, List.isEmpty_iff_length_eq_zero,
      alike.length_eq]
  unfold Policy.judge
  rw [← empty, ← name, ← unit]
  split
  · exact .skip _
  · dsimp only
    rw [← size]
    split
    next => exact .skip _
    next enough =>
      have some : p.window prior ≠ [] := by
        rintro none
        rw [none] at enough
        exact enough (Nat.lt_of_lt_of_le Nat.one_pos (Nat.le_max_left _ _))
      have baseline := Double.alike_mean window some
      have mean := Double.mean_ne_nan windowNumbers some few (by decide)
      split
      next => exact .skip _
      next direction _ =>
        have ratio := direction.alike_ratio baseline value
        rw [← ratio.lt_eq]
        split
        next worse =>
          refine .alert ?_
          simp [Alert.same, baseline.equals mean, value.equals number,
            ratio.equals (Double.ne_nan_of_lt worse)]
        next => exact .fine

theorem Report.same_addVerdict {report report' : Report} {verdict verdict' : Verdict}
    (same : report.same report' = true) (h : verdict.Same verdict') (name : String)
    : (report.addVerdict name verdict).same (report'.addVerdict name verdict') = true := by
  obtain ⟨alerts, skipped⟩ := Bool.and_eq_true_iff.mp same
  cases h with
  | fine => exact same
  | alert first => simp [addVerdict, Report.same, pairwiseSame, first, alerts, skipped]
  | skip => simpa [addVerdict, Report.same, alerts] using skipped

-----------------------------------------------------------------------------------------
-- Histories
-----------------------------------------------------------------------------------------

/-- The values of a benchmark over some entries. -/
def valuesOf (name : String) (entries : List Entry) : List Double :=
  (Ledger.pointsOf name entries).map Prod.snd

/-- Values without signs are those of the entries without signs. -/
theorem valuesOf_unsigned (name : String) (entries : List Entry)
    : valuesOf name (entries.map Entry.unsigned)
      = (valuesOf name entries).map Double.unsigned := by
  have found (e : Entry) : e.unsigned.record? name = (e.record? name).map Record.unsigned := by
    rw [Entry.record?, Entry.unsigned, List.find?_map]
    rfl
  rw [valuesOf, valuesOf, Ledger.pointsOf, Ledger.pointsOf, List.filterMap_map, List.map_map]
  induction entries with
  | nil => rfl
  | cons e entries ih =>
      rw [List.filterMap_cons, List.filterMap_cons, Function.comp_apply, found]
      cases e.record? name with
      | none => exact ih
      | some r => exact congrArg (r.value.unsigned :: ·) ih

/-- The values of entries in order are numbers that are not below zero. -/
theorem alike_of_mem_valuesOf (name : String) {entries : List Entry}
    (valid : ∀ e ∈ entries, e.Valid)
    : ∀ x ∈ valuesOf name entries, Double.Alike x x ∧ x ≠ .nan := by
  intro x member
  obtain ⟨point, present, rfl⟩ := List.mem_map.mp member
  obtain ⟨e, recorded, point⟩ := List.mem_filterMap.mp present
  obtain ⟨r, found, rfl⟩ := Option.map_eq_some_iff.mp point
  exact ((valid e recorded).records r (List.mem_of_find?_eq_some found)).alike

namespace Ledger

variable {l m : Ledger} {tool : String} {e : Entry}

theorem Valid.entriesOf_valid (h : l.Valid) (tool : String)
    : ∀ e ∈ l.entriesOf tool, e.Valid := by
  unfold entriesOf
  cases found : l.series.lookup tool with
  | none => exact List.forall_mem_nil _
  | some entries => exact h.entries _ (mem_of_lookup found)

/-- The values before a commit that is not recorded are all values. -/
theorem pointsBefore_of_fresh (fresh : l.hasCommit tool e.commit.id = false) (name : String)
    : (l.pointsBefore tool name e.commit.id).map Prod.snd
      = valuesOf name (l.entriesOf tool) := by
  rw [pointsBefore, List.takeWhile_eq_self_iff.mpr]
  · rfl
  · simpa [hasCommit, bne_iff_ne] using fresh

/-- The history before an entry goes on to hold, without signs, the values it held when the
entry was not recorded yet: the entry is the first of its commit.
-/
theorem pointsBefore_of_kept (fresh : l.hasCommit tool e.commit.id = false)
    (kept : (l.entriesOf tool ++ [e]).map Entry.unsigned
      <+: (m.entriesOf tool).map Entry.unsigned)
    (name : String)
    : ((m.pointsBefore tool name e.commit.id).map Prod.snd).map Double.unsigned
      = (valuesOf name (l.entriesOf tool)).map Double.unsigned := by
  obtain ⟨later, shape⟩ := kept
  have before
      : ((m.entriesOf tool).takeWhile fun other => other.commit.id != e.commit.id).map
          Entry.unsigned
        = (l.entriesOf tool).map Entry.unsigned := by
    have commuted := List.takeWhile_map (f := Entry.unsigned) (l := m.entriesOf tool)
      (p := fun other => other.commit.id != e.commit.id)
    refine commuted.symm.trans ?_
    rw [← shape, List.map_append, List.append_assoc, List.takeWhile_append_of_pos]
    · simp [Entry.unsigned]
    · simpa [hasCommit, bne_iff_ne, Entry.unsigned] using fresh
  rw [pointsBefore, ← valuesOf, ← valuesOf_unsigned, before, valuesOf_unsigned]

end Ledger

-----------------------------------------------------------------------------------------
-- Later changes
-----------------------------------------------------------------------------------------

/-- What may happen to a ledger later on: an entry is offered to it, be it accepted or not, or
the ledger is written and loaded again.
-/
inductive Change where
  | append (tool : String) (entry : MadeEntry)
  | reload

namespace Ledger

/-- The ledger after a change. -/
def change (l : Ledger) : Change → Ledger
  | .append tool entry => l.step (.append tool entry)
  | .reload => l.step (.load l.encode)

variable {l : Ledger}

theorem Valid.change (h : l.Valid) (change : Change) : (l.change change).Valid := by
  cases change with
  | append tool entry => exact h.step (.append tool entry)
  | reload => exact h.step (.load l.encode)

/-- A change keeps the entries of a tool, but for signs, and adds at most at their end. -/
theorem Valid.entriesOf_change (h : l.Valid) (change : Change) (tool : String)
    : (l.entriesOf tool).map Entry.unsigned
      <+: ((l.change change).entriesOf tool).map Entry.unsigned := by
  cases change with
  | append given entry =>
      unfold Ledger.change Ledger.step
      dsimp only
      cases added : l.append given entry.1 with
      | error => exact List.prefix_rfl
      | ok next =>
          change _ <+: (next.entriesOf tool).map Entry.unsigned
          rw [entriesOf_append h.sorted added]
          split
          · rw [List.map_append]
            exact List.prefix_append _ _
          · exact List.prefix_rfl
  | reload =>
      have loaded : l.change .reload = l.unsigned := by
        rw [Ledger.change, Ledger.step, h.decode_encode]
        rfl
      have same
          : (l.unsigned.entriesOf tool).map Entry.unsigned
            = (l.entriesOf tool).map Entry.unsigned := by
        rw [← entriesOf_unsigned, ← entriesOf_unsigned, unsigned_unsigned]
      exact loaded ▸ same.symm ▸ List.prefix_rfl

/-- Any number of changes keep a ledger in order and its entries, by induction on them. -/
theorem Valid.changes (h : l.Valid) (changes : List Change) (tool : String)
    : (changes.foldl Ledger.change l).Valid
      ∧ (l.entriesOf tool).map Entry.unsigned
        <+: ((changes.foldl Ledger.change l).entriesOf tool).map Entry.unsigned := by
  induction changes generalizing l with
  | nil => exact ⟨h, List.prefix_rfl⟩
  | cons change changes ih =>
      obtain ⟨valid, kept⟩ := ih (h.change change)
      exact ⟨valid, (h.entriesOf_change change tool).trans kept⟩

/-- Ledgers with the same history before an entry give the same report on it, by induction on
the records.
-/
theorem analyze_same {m : Ledger} {tool : String} {e : Entry} (p : Policy) (hl : l.Valid)
    (hm : m.Valid) (he : e.Valid) (fresh : l.hasCommit tool e.commit.id = false)
    (kept : (l.entriesOf tool ++ [e]).map Entry.unsigned
      <+: (m.entriesOf tool).map Entry.unsigned)
    : (m.analyze tool e p).same (l.analyze tool e p) = true := by
  unfold analyze
  have each := he.records
  generalize e.records = records at each
  induction records with
  | nil => rfl
  | cons r records ih =>
      obtain ⟨valid, others⟩ := List.forall_mem_cons.mp each
      have numbers
          : ∀ x ∈ (m.pointsBefore tool r.name e.commit.id).map Prod.snd,
              Double.Alike x x ∧ x ≠ .nan :=
        alike_of_mem_valuesOf r.name fun other member =>
          hm.entriesOf_valid tool other (List.takeWhile_subset _ member)
      have earlier := alike_of_mem_valuesOf r.name (hl.entriesOf_valid tool)
      have count
          : ((m.pointsBefore tool r.name e.commit.id).map Prod.snd).length ≤ 2 ^ (7 * 65) := by
        rw [List.length_map]
        refine (List.length_filterMap_le _ _).trans ?_
        exact (List.takeWhile_sublist _).length_le.trans (hm.length_entriesOf tool)
      refine Report.same_addVerdict (ih others)
        (p.judge_same tool rfl rfl valid.alike.1 valid.alike.2 ?_ numbers count) r.name
      rw [pointsBefore_of_fresh fresh]
      exact Double.forall₂_alike_of_unsigned (fun x member => (numbers x member).1)
        (fun x member => (earlier x member).1) (pointsBefore_of_kept fresh kept r.name)

/-- In every ledger that a run leads to, an entry of a new commit can be recorded, and the
report on it is the same, before and after, whatever entries are offered later to any tool and
however often the ledger is written and loaded again.
-/
theorem analyze_same_of_changes (repoUrl : String) (actions : List Action) (e : MadeEntry)
    (p : Policy)
    (fresh : (run repoUrl actions).hasCommit e.1.tool e.1.commit.id = false)
    : ∃ recorded, (run repoUrl actions).append e.1.tool e.1 = .ok recorded
        ∧ ∀ changes : List Change,
            ((changes.foldl change recorded).analyze e.1.tool e.1 p).same
              ((run repoUrl actions).analyze e.1.tool e.1 p) = true := by
  have valid := valid_run repoUrl actions
  have added := append_eq_ok.mpr ⟨rfl, fresh, rfl⟩
  refine ⟨_, added, fun changes => ?_⟩
  obtain ⟨after, kept⟩ := (valid.append e.2.valid added).changes changes e.1.tool
  rw [entriesOf_append valid.sorted added, if_pos rfl] at kept
  exact analyze_same p valid after e.2.valid fresh kept

/-- The report on a second commit outlasts a repeated addition and a reload. -/
theorem analyze_same_of_second
    : let records : List Record := [⟨"b", .zero false, "s", none, none⟩]
      let first : Entry :=
        ⟨{ (default : Commit) with id := "0123456789012345678901234567890123456789" }, 0, "bench",
          records⟩
      let second : Entry :=
        ⟨{ (default : Commit) with id := "abcdefabcdefabcdefabcdefabcdefabcdefabcd" }, 1, "bench",
          records⟩
      ∃ (madeFirst : first.Made) (madeSecond : second.Made),
        let s := run "repo" [.append "bench" ⟨first, madeFirst⟩]
        s.hasCommit "bench" second.commit.id = false
        ∧ ∃ recorded, s.append "bench" second = .ok recorded
          ∧ (([Change.append "bench" ⟨second, madeSecond⟩, .reload].foldl change recorded).analyze
              "bench" second .standard).same (s.analyze "bench" second .standard) = true := by
  intro records first second
  have record : Record.make "b" (.zero false) "s" = .ok ⟨"b", .zero false, "s", none, none⟩ := rfl
  have each : ∀ r ∈ records, r.Made := List.forall_mem_singleton.mpr (.make record)
  have range (date : Int) (small : 0 ≤ date ∧ date ≤ 1) : IsInt64 date := by
    unfold IsInt64
    omega
  have createFirst : Entry.create first.commit 0 "bench" records = .ok first := by decide
  have createSecond : Entry.create second.commit 1 "bench" records = .ok second := by decide
  have madeFirst : first.Made := .create (range 0 (by decide)) each createFirst
  have madeSecond : second.Made := .create (range 1 (by decide)) each createSecond
  obtain ⟨recorded, added, same⟩ :=
    analyze_same_of_changes "repo" [.append "bench" ⟨first, madeFirst⟩] ⟨second, madeSecond⟩
      .standard rfl
  exact ⟨madeFirst, madeSecond, rfl, recorded, added, same _⟩

end Ledger

end PerfLedger
