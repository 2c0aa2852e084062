import PerfLedger.Proofs.Double.ReadingBack
import PerfLedger.Proofs.Double.Signs
import PerfLedger.Proofs.Json.Tokens
import PerfLedger.Proofs.Ledger.Invariant

/-! Ledgers are equal by value when they differ in nothing but the signs of their zeros.
Without those signs equal ledgers are the same, and a ledger in order is written as before.
-/

namespace PerfLedger

-----------------------------------------------------------------------------------------
-- Values
-----------------------------------------------------------------------------------------

/-- A number without its sign. -/
def Double.unsigned : Double → Double
  | finite _ size => .finite false size
  | other => other

/-- A value in order is a finite double, and negative only as a zero. -/
theorem Record.Valid.value_eq {r : Record} (h : r.Valid)
    : ∃ negative size, r.value = .finite negative size ∧ (negative = true → size.units = 0) := by
  have admitted := (Double.isFiniteNonnegative_iff r.value).mpr ⟨h.finite, h.nonnegative⟩
  cases value : r.value with
  | nan => simp [value, Double.isFiniteNonnegative] at admitted
  | infinite negative => simp [value, Double.isFiniteNonnegative] at admitted
  | finite negative size =>
      refine ⟨negative, size, rfl, ?_⟩
      intro same
      subst same
      simpa [value, Double.isFiniteNonnegative] using admitted

/-- Values that are not below zero are equal when their sizes are. -/
theorem Double.equals_iff_unsigned {negative negative' : Bool} {size size' : Magnitude}
    (zero : negative = true → size.units = 0) (zero' : negative' = true → size'.units = 0)
    : (Double.finite negative size).equals (.finite negative' size') = true
      ↔ size = size' := by
  rw [equals, signedUnits_eq_units zero, signedUnits_eq_units zero', beq_iff_eq,
    Int.ofNat_inj]
  exact ⟨Magnitude.ext, congrArg Magnitude.units⟩

/-- Zeros are written without their sign. -/
theorem Record.valueNumber_sign {negative : Bool} {size : Magnitude}
    (zero : negative = true → size.units = 0)
    : valueNumber (.finite negative size) = valueNumber (.finite false size) := by
  cases negative with
  | false => rfl
  | true => simp [valueNumber, Double.toInt?, zero rfl]

/-- The number written for a value that is not below zero denotes that value. -/
theorem Record.valueNumber_toDouble (size : Magnitude)
    : (valueNumber (.finite false size)).toDouble = .finite false size := by
  unfold valueNumber Double.toInt?
  by_cases whole : size.units % unitsPerOne = 0
  · have units : ((size.units / unitsPerOne : Nat) : Int).natAbs * unitsPerOne = size.units :=
      Nat.div_mul_cancel (Nat.dvd_of_mod_eq_zero whole)
    have sign : decide (((size.units / unitsPerOne : Nat) : Int) < 0) = false :=
      decide_eq_false (Int.not_lt.mpr (Int.natCast_nonneg _))
    simp only [if_pos whole, Bool.false_eq_true, ↓reduceIte]
    split
    · rw [JsonNumber.toDouble, Double.ofInt_of_units units, sign]
    · rfl
  · simp only [if_neg whole]
    rfl

/-- The number written for a value in order can be read. -/
theorem Record.valueNumber_readable (negative : Bool) (size : Magnitude)
    : (valueNumber (.finite negative size)).Readable := by
  unfold valueNumber
  split
  next whole _ =>
    split
    next safe =>
      simp only [greatestSafeInt] at safe
      simp only [JsonNumber.Readable, JsonNumber.InRange, JsonNumber.leastInt,
        JsonNumber.greatestInt]
      omega
    next => rfl
  next => rfl

-----------------------------------------------------------------------------------------
-- Ledgers
-----------------------------------------------------------------------------------------

/-- A record without the sign of its value. -/
def Record.unsigned (r : Record) : Record := { r with value := r.value.unsigned }

/-- An entry without the signs of its values. -/
def Entry.unsigned (e : Entry) : Entry := { e with records := e.records.map Record.unsigned }

/-- A ledger without the signs of its values. -/
def Ledger.unsigned (l : Ledger) : Ledger :=
  { l with series := l.series.map fun s => (s.1, s.2.map Entry.unsigned) }

/-- Records in order are equal by value when they are the same without signs. -/
theorem Record.same_iff_unsigned {left right : Record} (hl : left.Valid) (hr : right.Valid)
    : left.same right = true ↔ left.unsigned = right.unsigned := by
  obtain ⟨negative, size, value, zero⟩ := hl.value_eq
  obtain ⟨negative', size', value', zero'⟩ := hr.value_eq
  obtain ⟨name, _, unit, range, extra⟩ := left
  obtain ⟨name', _, unit', range', extra'⟩ := right
  dsimp only at value value'
  subst value value'
  simp [same, unsigned, Double.unsigned, Double.equals_iff_unsigned zero zero', and_assoc]

/-- Lists agree in pairs when their images are equal, if that holds of their items. -/
theorem pairwiseSame_iff_map {α β : Type} {same : α → α → Bool} {f : α → β}
    {left right : List α}
    (each : ∀ x ∈ left, ∀ y ∈ right, same x y = true ↔ f x = f y)
    : pairwiseSame same left right = true ↔ left.map f = right.map f := by
  induction left generalizing right with
  | nil => cases right <;> simp [pairwiseSame]
  | cons x left ih =>
      cases right with
      | nil => simp [pairwiseSame]
      | cons y right =>
          have first := each x List.mem_cons_self y List.mem_cons_self
          have rest := ih fun x hx y hy =>
            each x (List.mem_cons_of_mem _ hx) y (List.mem_cons_of_mem _ hy)
          simp [pairwiseSame, first, rest]

/-- Entries in order are equal by value when they are the same without signs. -/
theorem Entry.same_iff_unsigned {left right : Entry} (hl : left.Valid) (hr : right.Valid)
    : left.same right = true ↔ left.unsigned = right.unsigned := by
  have records
      : pairwiseSame Record.same left.records right.records = true
        ↔ left.records.map Record.unsigned = right.records.map Record.unsigned :=
    pairwiseSame_iff_map fun x hx y hy =>
      Record.same_iff_unsigned (hl.records x hx) (hr.records y hy)
  obtain ⟨commit, date, tool, _⟩ := left
  obtain ⟨commit', date', tool', _⟩ := right
  simp [same, unsigned, records, and_assoc]

/-- Ledgers in order are equal by value when they are the same without signs. -/
theorem Ledger.same_iff_unsigned {left right : Ledger} (hl : left.Valid) (hr : right.Valid)
    : left.same right = true ↔ left.unsigned = right.unsigned := by
  have entries (s : String × List Entry) (hs : s ∈ left.series) (t : String × List Entry)
      (ht : t ∈ right.series)
      : (s.1 == t.1 && pairwiseSame Entry.same s.2 t.2) = true
        ↔ (s.1, s.2.map Entry.unsigned) = (t.1, t.2.map Entry.unsigned) := by
    rw [Bool.and_eq_true, beq_iff_eq, Prod.mk.injEq, pairwiseSame_iff_map]
    exact fun x hx y hy =>
      Entry.same_iff_unsigned (hl.entries s hs x hx) (hr.entries t ht y hy)
  have series := pairwiseSame_iff_map entries
  obtain ⟨lastUpdate, repoUrl, _⟩ := left
  obtain ⟨lastUpdate', repoUrl', _⟩ := right
  simp [same, unsigned, series, and_assoc]

-----------------------------------------------------------------------------------------
-- Documents and additions
-----------------------------------------------------------------------------------------

theorem Record.toJson_unsigned {r : Record} (h : r.Valid) : r.unsigned.toJson = r.toJson := by
  obtain ⟨negative, size, value, zero⟩ := h.value_eq
  simp only [toJson, unsigned, value, Double.unsigned, valueNumber_sign zero]

theorem Entry.toJson_unsigned {e : Entry} (h : e.Valid) : e.unsigned.toJson = e.toJson := by
  have records
      : (e.records.map Record.unsigned).map Record.toJson = e.records.map Record.toJson := by
    rw [List.map_map]
    exact List.map_congr_left fun r member => Record.toJson_unsigned (h.records r member)
  simp only [toJson, unsigned, records]

theorem Ledger.toJson_unsigned {l : Ledger} (h : l.Valid) : l.unsigned.toJson = l.toJson := by
  have series
      : (l.series.map fun s => (s.1, s.2.map Entry.unsigned)).map
          (fun s => (s.1, Json.array (s.2.map Entry.toJson)))
        = l.series.map fun s => (s.1, Json.array (s.2.map Entry.toJson)) := by
    rw [List.map_map]
    refine List.map_congr_left fun s member => ?_
    have entries : (s.2.map Entry.unsigned).map Entry.toJson = s.2.map Entry.toJson := by
      rw [List.map_map]
      exact List.map_congr_left fun e recorded =>
        Entry.toJson_unsigned (h.entries s member e recorded)
    exact congrArg (fun items => (s.1, Json.array items)) entries
  exact congrArg (fun members => Json.object
    [("lastUpdate", .int l.lastUpdate), ("repoUrl", .text l.repoUrl),
      ("entries", .object members)]) series

theorem Entry.unsigned_unsigned (e : Entry) : e.unsigned.unsigned = e.unsigned := by
  have value (v : Double) : v.unsigned.unsigned = v.unsigned := by cases v <;> rfl
  simp [unsigned, Record.unsigned, value]

namespace Ledger

theorem unsigned_unsigned (l : Ledger) : l.unsigned.unsigned = l.unsigned := by
  simp [unsigned, Entry.unsigned_unsigned]

theorem entriesOf_unsigned (l : Ledger) (tool : String)
    : l.unsigned.entriesOf tool = (l.entriesOf tool).map Entry.unsigned := by
  unfold entriesOf unsigned
  dsimp only
  induction l.series with
  | nil => rfl
  | cons s series ih =>
      rw [List.map_cons, List.lookup_cons, List.lookup_cons]
      split
      · rfl
      · exact ih

theorem hasCommit_unsigned (l : Ledger) (tool commitId : String)
    : l.unsigned.hasCommit tool commitId = l.hasCommit tool commitId := by
  rw [hasCommit, hasCommit, entriesOf_unsigned, List.any_map]
  rfl

/-- A series grows by the same entry with or without signs. -/
theorem map_unsigned_extend (entry : Entry) (series : List (String × List Entry))
    : (extend entry series).map (fun s => (s.1, s.2.map Entry.unsigned))
      = extend entry.unsigned (series.map fun s => (s.1, s.2.map Entry.unsigned)) := by
  induction series with
  | nil => rfl
  | cons s series ih =>
      rw [List.map_cons, extend, extend]
      have tool : entry.unsigned.tool = entry.tool := rfl
      rw [tool]
      split
      · rfl
      · split
        · simp
        · rw [List.map_cons, ih]

/-- An entry is added, or refused, without a look at signs. -/
theorem append_unsigned (l : Ledger) (tool : String) (entry : Entry)
    : l.unsigned.append tool entry.unsigned = unsigned <$> l.append tool entry := by
  have commit : entry.unsigned.commit = entry.commit := rfl
  have same : entry.unsigned.tool = entry.tool := rfl
  have date : entry.unsigned.date = entry.date := rfl
  unfold append
  rw [same, commit, hasCommit_unsigned]
  split
  · rfl
  · split
    · rfl
    · rw [date]
      refine congrArg Except.ok ?_
      simp only [unsigned, map_unsigned_extend]

end Ledger

end PerfLedger
