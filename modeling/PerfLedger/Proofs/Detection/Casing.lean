import PerfLedger.Detection.Policy
import PerfLedger.Proofs.Detection.Units
import PerfLedger.Proofs.Ledger.Invariant

/-! Polarities do not depend on the case of ASCII letters, neither in what is looked up nor in the
keys it is looked up by. Only keys that differ in nothing else are told apart by it.
-/

namespace PerfLedger

-----------------------------------------------------------------------------------------
-- Units
-----------------------------------------------------------------------------------------

namespace Polarity

theorem foldUnitChar_toLower (c : Char) : foldUnitChar c.toLower = foldUnitChar c := by
  rcases Nat.lt_or_ge c.toNat 128 with ascii | outside
  · exact of_ascii c ascii (by decide +kernel)
  · rw [toLower_of_not_ascii outside]

/-- A unit is compared in a form that its small letters determine. -/
theorem normalizeUnit_toLower (unit : String)
    : normalizeUnit unit.toLower = normalizeUnit unit := by
  have folded : foldUnitChar ∘ Char.toLower = foldUnitChar := funext foldUnitChar_toLower
  rw [normalizeUnit, String.toLower, String.toList_map, trim_map_toLower, List.map_map, folded,
    normalizeUnit]

theorem infer?_recased {unit unit' : String} (h : Recased unit unit')
    : infer? unit = infer? unit' := by
  rw [infer?, infer?, ← normalizeUnit_toLower, recased_iff.mp h, normalizeUnit_toLower]

end Polarity

-----------------------------------------------------------------------------------------
-- Tables
-----------------------------------------------------------------------------------------

namespace Policy

variable {table table' : PolarityTable} {key key' : String} {polarity : Polarity}

/-- No two keys of a table are equal but for the case of ASCII letters. -/
def CaselessKeys (table : PolarityTable) : Prop :=
  table.Pairwise fun entry entry' => ¬ Recased entry.1 entry'.1

/-- A table with the same polarities under recased keys, in any order. -/
def RecasedKeys (table table' : PolarityTable) : Prop :=
  ∃ changed : PolarityTable,
    List.Forall₂ (fun entry entry' => Recased entry.1 entry'.1 ∧ entry.2 = entry'.2) table changed
    ∧ changed.Perm table'

/-- A table with its keys in small letters. -/
def lowered (table : PolarityTable) : PolarityTable :=
  table.map fun entry => (entry.1.toLower, entry.2)

theorem CaselessKeys.distinct (h : CaselessKeys table) : ((lowered table).map Prod.fst).Nodup := by
  rw [lowered, List.map_map, List.Nodup, List.pairwise_map]
  exact h.imp fun apart same => apart (recased_iff.mpr same)

theorem RecasedKeys.perm (h : RecasedKeys table table')
    : (lowered table).Perm (lowered table') := by
  obtain ⟨changed, each, order⟩ := h
  have same : lowered table = lowered changed := by
    clear order
    induction each with
    | nil => rfl
    | @cons entry entry' _ _ first _ ih =>
        obtain ⟨key, polarity⟩ := first
        rw [lowered, List.map_cons, recased_iff.mp key, polarity]
        exact congrArg _ ih
  exact same ▸ order.map _

/-- What is looked up stands under a key with the same small letters. -/
theorem mem_lowered_of_lookup (found : lookup table key = some polarity)
    : (key.toLower, polarity) ∈ lowered table := by
  unfold lookup at found
  split at found
  next known =>
    obtain rfl := Option.some.inj found
    exact List.mem_map.mpr ⟨_, mem_of_lookup known, rfl⟩
  next =>
    obtain ⟨entry, known, rfl⟩ := Option.map_eq_some_iff.mp found
    have same : entry.1.toLower = key.toLower := by simpa using List.find?_some known
    exact List.mem_map.mpr ⟨entry, List.mem_of_find?_eq_some known, by rw [same]⟩

theorem exists_lookup_of_mem_lowered (member : (key.toLower, polarity) ∈ lowered table)
    : ∃ found, lookup table key = some found := by
  obtain ⟨entry, present, same⟩ := List.mem_map.mp member
  unfold lookup
  split
  next found _ => exact ⟨found, rfl⟩
  next =>
    have matching : (table.find? fun entry => entry.1.toLower == key.toLower).isSome :=
      List.find?_isSome.mpr ⟨entry, present, by simpa using congrArg Prod.fst same⟩
    obtain ⟨found, known⟩ := Option.isSome_iff_exists.mp matching
    exact ⟨found.2, by rw [known]; rfl⟩

/-- Without keys that differ only in case, polarities are looked up by small letters. -/
theorem CaselessKeys.lookup_eq (h : CaselessKeys table) (key : String)
    : lookup table key = (lowered table).lookup key.toLower := by
  refine Option.ext fun polarity => ⟨fun found => ?_, fun found => ?_⟩
  · exact lookup_of_mem h.distinct (mem_lowered_of_lookup found)
  · have member := mem_of_lookup found
    obtain ⟨other, known⟩ := exists_lookup_of_mem_lowered member
    have same := lookup_of_mem h.distinct (mem_lowered_of_lookup known)
    rw [known, ← same, found]

/-- Recased keys are without keys that differ only in case, when those before were. -/
theorem CaselessKeys.recased (h : CaselessKeys table) (recased : RecasedKeys table table')
    : CaselessKeys table' := by
  have distinct := (recased.perm.map Prod.fst).nodup h.distinct
  rw [lowered, List.map_map, List.Nodup, List.pairwise_map] at distinct
  exact distinct.imp fun apart same => apart (recased_iff.mp same)

/-- Recasing the key and the keys of the table changes nothing that is looked up. -/
theorem lookup_recased (h : CaselessKeys table) (recased : RecasedKeys table table')
    (same : Recased key key')
    : lookup table' key' = lookup table key := by
  rw [(h.recased recased).lookup_eq, h.lookup_eq, recased_iff.mp same]
  refine Option.ext fun polarity => ⟨fun found => ?_, fun found => ?_⟩
  · exact lookup_of_mem h.distinct (recased.perm.mem_iff.mpr (mem_of_lookup found))
  · exact lookup_of_mem (h.recased recased).distinct (recased.perm.mem_iff.mp (mem_of_lookup found))

/-- A key that is in the table as it is is found, whatever keys differ from it in case. -/
theorem lookup_of_exact (distinct : (table.map Prod.fst).Nodup) (member : (key, polarity) ∈ table)
    : lookup table key = some polarity := by
  rw [lookup, lookup_of_mem distinct member]

-----------------------------------------------------------------------------------------
-- Policies
-----------------------------------------------------------------------------------------

/-- A policy whose tables have no keys that differ only in the case of ASCII letters. -/
structure Caseless (p : Policy) : Prop where
  overrides : CaselessKeys p.overrides
  unitPolarity : CaselessKeys p.unitPolarity
  toolPolarity : CaselessKeys p.toolPolarity

/-- Policies whose tables are the same but for the case of ASCII letters in their keys. -/
structure Recases (p p' : Policy) : Prop where
  overrides : RecasedKeys p.overrides p'.overrides
  unitPolarity : RecasedKeys p.unitPolarity p'.unitPolarity
  toolPolarity : RecasedKeys p.toolPolarity p'.toolPolarity

/-- Polarities are resolved without regard to the case of ASCII letters, in names, units, tools and
keys. Of keys that differ only in case, the one that is equal to the text comes first. And a unit
tells what its text tells in lower case in the sense of Unicode.
-/
theorem polarityOf?_recased
    : (∀ (p p' : Policy) (tool tool' name name' unit unit' : String),
        p.Caseless → p.Recases p' →
        Recased tool tool' → Recased name name' → Recased unit unit' →
        p'.polarityOf? tool' name' unit' = p.polarityOf? tool name unit)
      ∧ (∀ (table : PolarityTable) (key : String) (polarity : Polarity),
          (table.map Prod.fst).Nodup → (key, polarity) ∈ table →
          lookup table key = some polarity)
      ∧ (∀ (p : Policy) (tool name unit : String) (polarity : Polarity),
          ((p.overrides.map Prod.fst).Nodup → (name, polarity) ∈ p.overrides →
            p.polarityOf? tool name unit = some polarity)
          ∧ ((p.unitPolarity.map Prod.fst).Nodup → (unit, polarity) ∈ p.unitPolarity →
            lookup p.overrides name = none →
            p.polarityOf? tool name unit = some polarity)
          ∧ ((p.toolPolarity.map Prod.fst).Nodup → (tool, polarity) ∈ p.toolPolarity →
            lookup p.overrides name = none → lookup p.unitPolarity unit = none →
            Polarity.infer? unit = none →
            p.polarityOf? tool name unit = some polarity))
      ∧ ∀ unit : String,
          Polarity.infer? unit = Polarity.ofNormalized? (Polarity.lowerUnit unit) := by
  refine ⟨?_, fun _ _ _ => lookup_of_exact, ?_, Polarity.infer?_eq_lowered⟩
  · intro p p' tool tool' name name' unit unit' caseless recases tools names units
    rw [polarityOf?, lookup_recased caseless.overrides recases.overrides names,
      lookup_recased caseless.unitPolarity recases.unitPolarity units,
      ← Polarity.infer?_recased units,
      lookup_recased caseless.toolPolarity recases.toolPolarity tools, ← polarityOf?]
  · intro p tool name unit polarity
    refine ⟨fun distinct member => ?_, fun distinct member none => ?_,
      fun distinct member none none' none'' => ?_⟩
    · rw [polarityOf?, lookup_of_exact distinct member]
      rfl
    · rw [polarityOf?, none, lookup_of_exact distinct member]
      rfl
    · rw [polarityOf?, none, none', none'', lookup_of_exact distinct member]
      rfl

/-- Tools, names, units and keys in other letters, the keys in another order; and a key that differs
from an earlier one only in case.
-/
theorem polarityOf?_recased_tables
    : let p : Policy := { standard with overrides := [("Parse", .lowerIsBetter)] }
      let p' : Policy :=
        { p with
          overrides := [("PARSE", .lowerIsBetter)]
          toolPolarity :=
            [("CUSTOMSMALLERisBetter", .lowerIsBetter), ("custombiggerisbetter", .higherIsBetter)] }
      let table : PolarityTable := [("NS", .higherIsBetter), ("ns", .lowerIsBetter)]
      let q : Policy :=
        { standard with overrides := table, unitPolarity := table, toolPolarity := table }
      p.Caseless ∧ p.Recases p'
      ∧ Recased "customBiggerIsBetter" "CUSTOMbiggerISbetter" ∧ Recased "Scan" "sCAN"
      ∧ Recased "Frobs \u03A3" "fROBS \u03A3"
      ∧ p'.polarityOf? "CUSTOMbiggerISbetter" "sCAN" "fROBS \u03A3"
        = p.polarityOf? "customBiggerIsBetter" "Scan" "Frobs \u03A3"
      ∧ (table.map Prod.fst).Nodup ∧ ("ns", Polarity.lowerIsBetter) ∈ table
      ∧ lookup table "ns" = some .lowerIsBetter
      ∧ q.polarityOf? "ns" "ns" "x" = some .lowerIsBetter
      ∧ lookup q.overrides "x" = none ∧ q.polarityOf? "x" "x" "ns" = some .lowerIsBetter
      ∧ lookup q.unitPolarity "x" = none ∧ Polarity.infer? "x" = none
      ∧ q.polarityOf? "ns" "x" "x" = some .lowerIsBetter := by
  intro p p' table q
  have caseless : p.Caseless := by
    refine ⟨?_, ?_, ?_⟩ <;> unfold CaselessKeys <;> decide +kernel
  have recases : p.Recases p' := by
    refine ⟨⟨[("PARSE", .lowerIsBetter)], .cons ⟨?_, rfl⟩ .nil, .refl _⟩, ⟨[], .nil, .refl _⟩,
      ⟨[("custombiggerisbetter", .higherIsBetter), ("CUSTOMSMALLERisBetter", .lowerIsBetter)],
        .cons ⟨?_, rfl⟩ (.cons ⟨?_, rfl⟩ .nil), .swap _ _ _⟩⟩ <;> decide +kernel
  have tools : Recased "customBiggerIsBetter" "CUSTOMbiggerISbetter" := by decide +kernel
  have names : Recased "Scan" "sCAN" := by decide +kernel
  have units : Recased "Frobs \u03A3" "fROBS \u03A3" := by decide +kernel
  have distinct : (table.map Prod.fst).Nodup := by decide
  have member : ("ns", Polarity.lowerIsBetter) ∈ table := by decide
  have noName : lookup q.overrides "x" = none := by decide +kernel
  have noUnit : lookup q.unitPolarity "x" = none := by decide +kernel
  have untold : Polarity.infer? "x" = none := by decide +kernel
  obtain ⟨recased, exactKey, stages, -⟩ := polarityOf?_recased
  refine ⟨caseless, recases, tools, names, units,
    recased _ _ _ _ _ _ _ _ caseless recases tools names units, distinct, member,
    exactKey _ _ _ distinct member, (stages q "ns" "ns" "x" _).1 distinct member, noName,
    (stages q "x" "x" "ns" _).2.1 distinct member noName, noUnit, untold,
    (stages q "ns" "x" "x" _).2.2 distinct member noName noUnit untold⟩

end Policy

end PerfLedger
