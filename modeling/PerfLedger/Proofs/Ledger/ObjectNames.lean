import Mathlib.Data.List.Perm.Subperm
import Mathlib.Data.Nat.Digits.Defs
import PerfLedger.Proofs.Ledger.Invariant

/-! There are only so many object names, and so many entries in a series. -/

namespace PerfLedger

/-- A text as a number: its characters are the digits, and a one comes after them. -/
def codeOf (text : String) : Nat := Nat.ofDigits 128 (text.toList.map Char.toNat ++ [1])

theorem IsObjectName.digits_lt {id : String} (h : IsObjectName id)
    : ∀ digit ∈ id.toList.map Char.toNat ++ [1], digit < 128 := by
  refine List.forall_mem_append.mpr ⟨List.forall_mem_map.mpr fun c member => ?_, by simp⟩
  have ascii {bound : Char} (below : c ≤ bound) (small : bound.toNat < 128) : c.toNat < 128 :=
    Nat.lt_of_le_of_lt below small
  rcases h.2 c member with digit | small | large
  · exact ascii digit.2 (by decide)
  · exact ascii small.2 (by decide)
  · exact ascii large.2 (by decide)

/-- Object names are told apart by their numbers. -/
theorem eq_of_codeOf_eq {left right : String} (hl : IsObjectName left) (hr : IsObjectName right)
    (same : codeOf left = codeOf right)
    : left = right := by
  have digits {id : String} (h : IsObjectName id)
      : Nat.digits 128 (codeOf id) = id.toList.map Char.toNat ++ [1] :=
    Nat.digits_ofDigits 128 (by decide) _ h.digits_lt (by simp)
  have texts := (digits hl).symm.trans ((congrArg _ same).trans (digits hr))
  have letters : Function.Injective Char.toNat := fun _ _ h => Char.ext (UInt32.toNat_inj.mp h)
  exact String.toList_injective (letters.list_map (List.append_cancel_right texts))

theorem codeOf_lt {id : String} (h : IsObjectName id) : codeOf id < 2 ^ (7 * 65) := by
  have length : (id.toList.map Char.toNat ++ [1]).length ≤ 65 := by
    rcases h.1 with size | size <;> simp [size]
  calc codeOf id
      < (2 ^ 7) ^ (id.toList.map Char.toNat ++ [1]).length :=
        Nat.ofDigits_lt_base_pow_length (by decide) h.digits_lt
    _ = 2 ^ (7 * (id.toList.map Char.toNat ++ [1]).length) := (Nat.pow_mul 2 7 _).symm
    _ ≤ 2 ^ (7 * 65) := Nat.pow_le_pow_right (by decide) (Nat.mul_le_mul_left 7 length)

/-- Different numbers below a bound are no more than the bound. -/
theorem length_le_of_nodup {numbers : List Nat} {bound : Nat} (distinct : numbers.Nodup)
    (below : ∀ n ∈ numbers, n < bound)
    : numbers.length ≤ bound := by
  have among : numbers ⊆ List.range bound := fun n member => List.mem_range.mpr (below n member)
  have size := (List.Nodup.subperm distinct among).length_le
  rwa [List.length_range] at size

/-- Different object names are no more than there can be. -/
theorem length_le_of_objectNames {ids : List String} (each : ∀ id ∈ ids, IsObjectName id)
    (distinct : ids.Nodup)
    : ids.length ≤ 2 ^ (7 * 65) := by
  have codes : (ids.map codeOf).Nodup :=
    distinct.map_on fun left hl right hr => eq_of_codeOf_eq (each left hl) (each right hr)
  have below : ∀ n ∈ ids.map codeOf, n < 2 ^ (7 * 65) :=
    List.forall_mem_map.mpr fun id member => codeOf_lt (each id member)
  have size := length_le_of_nodup codes below
  rwa [List.length_map] at size

/-- A series is no longer than there are object names, for its commits differ. -/
theorem Ledger.Valid.length_entriesOf {l : Ledger} (h : l.Valid) (tool : String)
    : (l.entriesOf tool).length ≤ 2 ^ (7 * 65) := by
  unfold entriesOf
  cases found : l.series.lookup tool with
  | none => exact Nat.zero_le _
  | some entries =>
      have member : (tool, entries) ∈ l.series := mem_of_lookup found
      have names : ∀ id ∈ entries.map fun e => e.commit.id, IsObjectName id :=
        List.forall_mem_map.mpr fun e recorded => (h.entries _ member e recorded).commit
      have size := length_le_of_objectNames names (h.distinct _ member)
      rwa [List.length_map] at size

end PerfLedger
