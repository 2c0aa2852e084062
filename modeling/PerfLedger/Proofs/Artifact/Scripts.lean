import PerfLedger.Proofs.Artifact.RoundTrip
import PerfLedger.Proofs.Json.ScriptNumbers

/-! Scripts that others write. Every script of a ledger in order is read as that ledger, but it is
only written again as it was if none of the values is one that artifacts write otherwise.
-/

namespace PerfLedger

open Double (scriptNumber)

namespace Ledger

/-- The text of a ledger in a script that others write. -/
def script (l : Ledger) : String :=
  Artifact.scriptHead ++ String.ofList ((l.data .real).layout JsonNumber.script [])

/-- The records of a ledger satisfy a condition. -/
def EachRecord (l : Ledger) (P : Record → Prop) : Prop :=
  ∀ s ∈ l.series, ∀ e ∈ s.2, ∀ r ∈ e.records, P r

-----------------------------------------------------------------------------------------
-- Reading
-----------------------------------------------------------------------------------------

/-- The numbers in a script denote the values of the records. -/
theorem denotes_scriptNumber : Denotes scriptNumber := by
  intro r valid
  obtain ⟨negative, size, value, zero⟩ := valid.value_eq
  rw [value, Double.scriptNumber_eq zero, Double.toDouble_reread]
  rfl

/-- A script holds its ledger with the numbers that are read. -/
theorem script_eq_layout (l : Ledger)
    : l.script
      = Artifact.scriptHead
        ++ String.ofList ((l.data scriptNumber).layout JsonNumber.script []) := by
  have same : JsonNumber.script ∘ JsonNumber.mapReal scriptNumber = JsonNumber.script := by
    funext x
    cases x with
    | int => rfl
    | real value => exact Double.script_scriptNumber value
  rw [script, ← mapNumbers_data scriptNumber l, Json.layout_mapNumbers, same]

/-- A statement about all numbers of a ledger is one about its dates and one about its values. -/
theorem forall_numbers_data (number : Double → JsonNumber) (P : JsonNumber → Prop) (l : Ledger)
    : (∀ x ∈ (l.data number).numbers, P x)
      ↔ P (.int l.lastUpdate) ∧ (∀ s ∈ l.series, ∀ e ∈ s.2, P (.int e.date))
        ∧ l.EachRecord fun r => P (number r.value) := by
  simp only [numbers_data, List.forall_mem_cons, List.forall_mem_flatMap, List.forall_mem_map,
    EachRecord]
  grind

/-- The script of a ledger in order is read as the ledger without signs. -/
theorem Valid.decode_script {l : Ledger} (h : l.Valid) : decode l.script = .ok l.unsigned := by
  have integer {n : Int} (range : IsInt64 n)
      : Lexeme (.number (.int n)) (JsonNumber.int n).script :=
    (JsonNumber.readable_int range).lexeme
  rw [script_eq_layout]
  refine h.decode_layout denotes_scriptNumber ((forall_numbers_data _ _ l).mpr ⟨?_, ?_, ?_⟩)
  · exact integer h.range
  · exact fun s member e recorded => integer (h.entries s member e recorded).date
  · intro s member e recorded r measured
    obtain ⟨negative, size, value, zero⟩ :=
      ((h.entries s member e recorded).records r measured).value_eq
    rw [value, Double.scriptNumber_eq zero, Double.script_reread]
    exact Double.lexeme_scriptDigits size

-----------------------------------------------------------------------------------------
-- Writing
-----------------------------------------------------------------------------------------

/-- A ledger in order is written as its script unless a value is written apart. -/
theorem Valid.encode_eq_script_iff {l : Ledger} (h : l.Valid)
    : l.encode = l.script ↔ l.EachRecord fun r => ¬ r.value.WrittenApart := by
  have plain (x : JsonNumber) : Unbroken ((JsonNumber.print ∘ .mapReal Record.valueNumber) x) :=
    JsonNumber.unbroken_print _
  have values
      : (l.EachRecord fun r =>
          (Record.valueNumber r.value).print = (JsonNumber.real r.value).script)
        ↔ l.EachRecord fun r => ¬ r.value.WrittenApart := by
    refine forall₂_congr fun s member => forall₂_congr fun e recorded =>
      forall₂_congr fun r measured => ?_
    obtain ⟨negative, size, value, zero⟩ :=
      ((h.entries s member e recorded).records r measured).value_eq
    dsimp only
    rw [value, Record.print_eq_script_iff zero]
  have texts (left right : List Char)
      : Artifact.scriptHead ++ String.ofList left = Artifact.scriptHead ++ String.ofList right
        ↔ left = right := by
    simp [← String.toList_inj]
  rw [encode_eq_layout, script, texts, ← mapNumbers_data Record.valueNumber l, Json.layout_mapNumbers,
    Json.layout_eq_iff plain JsonNumber.unbroken_script, forall_numbers_data, ← values]
  exact ⟨fun h => h.2.2, fun h => ⟨rfl, fun _ _ _ _ => rfl, h⟩⟩

/-- Every script of a ledger in order is read as that ledger by value. What is written for it is
the same text exactly if no value is whole, not safe and below `10 ^ 21`, and none is from
`10 ^ -6` and less than `10 ^ -5`.
-/
theorem encode_decode_script {l : Ledger} (h : l.Valid)
    : ∃ back, decode l.script = .ok back ∧ back.same l = true
      ∧ (back.encode = l.script ↔ l.EachRecord fun r => ¬ r.value.WrittenApart) := by
  have valid := valid_of_decode h.decode_script
  refine ⟨l.unsigned, h.decode_script, (same_iff_unsigned valid h).mpr (unsigned_unsigned l), ?_⟩
  rw [h.encode_unsigned, h.encode_eq_script_iff]

/-- A ledger with one value. -/
def ofValue (value : Double) : Ledger where
  lastUpdate := 0
  repoUrl := "repo"
  series := [("bench", [{
    commit := { (default : Commit) with id := "0123456789012345678901234567890123456789" }
    date := 0
    tool := "bench"
    records := [⟨"b", value, "s", none, none⟩] }])]

theorem valid_ofValue {value : Double} (admitted : value.isFiniteNonnegative = true)
    : (ofValue value).Valid := by
  obtain ⟨finite, nonnegative⟩ := (Double.isFiniteNonnegative_iff value).mp admitted
  have commit : IsObjectName "0123456789012345678901234567890123456789" :=
    (isCommitId_iff _).mp (by decide)
  have tool : isBlankText "bench" = false := by decide
  have name : isBlankText "b" = false := by decide
  have date : IsInt64 0 := by decide
  have entry (e : Entry) (among : e ∈ (ofValue value).series.flatMap Prod.snd) : e.Valid := by
    obtain rfl := List.mem_singleton.mp among
    refine ⟨tool, commit, date, List.cons_ne_nil _ _, List.nodup_singleton _, ?_⟩
    exact List.forall_mem_singleton.mpr ⟨name, finite, nonnegative⟩
  refine ⟨List.pairwise_singleton _ _, ?_, ?_, ?_, ?_, ?_, Int.le_refl 0, date⟩
  all_goals refine List.forall_mem_singleton.mpr ?_
  · exact List.cons_ne_nil _ _
  · exact List.forall_mem_singleton.mpr rfl
  · exact List.nodup_singleton _
  · exact List.forall_mem_singleton.mpr (entry _ (List.mem_singleton_self _))
  · exact List.forall_mem_singleton.mpr (Int.le_refl 0)

theorem eachRecord_ofValue (value : Double) (P : Record → Prop)
    : (ofValue value).EachRecord P ↔ P ⟨"b", value, "s", none, none⟩ := by
  simp [EachRecord, ofValue]

/-- The value `10 ^ 21` is written with an exponent by everyone. -/
theorem encode_decode_script_large
    : (ofValue (.tenTo 21)).Valid
      ∧ ∃ back, decode (ofValue (.tenTo 21)).script = .ok back
        ∧ back.encode = (ofValue (.tenTo 21)).script := by
  have valid : (ofValue (.tenTo 21)).Valid := valid_ofValue (by decide +kernel)
  obtain ⟨back, read, _, written⟩ := encode_decode_script valid
  exact ⟨valid, back, read,
    written.mpr ((eachRecord_ofValue _ _).mpr (by decide +kernel))⟩

/-- The value `10 ^ 16` is written out in scripts, and with an exponent in artifacts. -/
theorem encode_ne_script
    : (ofValue (.ofNat (10 ^ 16))).Valid
      ∧ ∃ back, decode (ofValue (.ofNat (10 ^ 16))).script = .ok back
        ∧ back.encode ≠ (ofValue (.ofNat (10 ^ 16))).script := by
  have valid : (ofValue (.ofNat (10 ^ 16))).Valid := valid_ofValue (by decide +kernel)
  have apart : Double.WrittenApart (.ofNat (10 ^ 16)) := by decide +kernel
  refine ⟨valid, _, valid.decode_script, ?_⟩
  rw [valid.encode_unsigned, Ne, valid.encode_eq_script_iff, eachRecord_ofValue, not_not]
  dsimp only
  exact apart

end Ledger

end PerfLedger
