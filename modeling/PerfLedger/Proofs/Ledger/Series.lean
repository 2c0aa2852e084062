import PerfLedger.Proofs.Ledger.Invariant

/-! Series in order are told by what is found under each tool. An added entry stands last in
the series of its tool, and what is found under the other tools stays the same.
-/

namespace PerfLedger

-----------------------------------------------------------------------------------------
-- Lists sorted by name
-----------------------------------------------------------------------------------------

/-- A name is looked up by comparing it with the names in turn. -/
theorem lookup_cons_eq_ite {α : Type} (name : String) (s : String × α)
    (series : List (String × α))
    : (s :: series).lookup name = if name = s.1 then some s.2 else series.lookup name := by
  obtain ⟨key, value⟩ := s
  by_cases same : name = key
  · simp [same]
  · simp [List.lookup_cons, beq_eq_false_iff_ne.mpr same, same]

/-- Lists in order under whose names the same is found are the same, by induction on both. -/
theorem eq_of_lookup {α : Type} {left right : List (String × α)}
    (hl : (left.map Prod.fst).Pairwise (· < ·)) (hr : (right.map Prod.fst).Pairwise (· < ·))
    (same : ∀ name, left.lookup name = right.lookup name)
    : left = right := by
  induction left generalizing right with
  | nil =>
      cases right with
      | nil => rfl
      | cons t right => simpa [lookup_cons_eq_ite] using same t.1
  | cons s left ih =>
      cases right with
      | nil => simpa [lookup_cons_eq_ite] using same s.1
      | cons t right =>
          obtain ⟨beforeLeft, restLeft⟩ := List.pairwise_cons.mp hl
          obtain ⟨beforeRight, restRight⟩ := List.pairwise_cons.mp hr
          have found : s ∈ t :: right :=
            mem_of_lookup ((same s.1).symm.trans (by simp [lookup_cons_eq_ite]))
          have found' : t ∈ s :: left :=
            mem_of_lookup ((same t.1).trans (by simp [lookup_cons_eq_ite]))
          have head : s = t := by
            rcases List.mem_cons.mp found with first | later
            · exact first
            · rcases List.mem_cons.mp found' with first | later'
              · exact first.symm
              · have after := beforeRight _ (List.mem_map_of_mem later)
                have before := beforeLeft _ (List.mem_map_of_mem later')
                exact absurd after (String.lt_asymm before)
          subst head
          refine congrArg (s :: ·) (ih restLeft restRight ?_)
          intro name
          by_cases own : name = s.1
          · subst own
            rw [lookup_eq_none (fun member => String.lt_irrefl _ (beforeLeft _ member)),
              lookup_eq_none (fun member => String.lt_irrefl _ (beforeRight _ member))]
          · simpa [lookup_cons_eq_ite, own] using same name

-----------------------------------------------------------------------------------------
-- Grown series
-----------------------------------------------------------------------------------------

namespace Ledger

/-- Under the tool of an added entry its series is found one entry longer, and what is found
under any other tool stays.
-/
theorem lookup_extend (entry : Entry) {series : List (String × List Entry)}
    (sorted : (series.map Prod.fst).Pairwise (· < ·)) (tool : String)
    : (extend entry series).lookup tool
      = if tool = entry.tool then some ((series.lookup tool).getD [] ++ [entry])
        else series.lookup tool := by
  induction series with
  | nil => simp [extend, lookup_cons_eq_ite]
  | cons s series ih =>
      obtain ⟨before, rest⟩ := List.pairwise_cons.mp sorted
      unfold extend
      split
      next first =>
        have absent : (s :: series).lookup entry.tool = none := by
          refine lookup_eq_none fun present => ?_
          rcases List.mem_cons.mp present with same | later
          · exact String.lt_irrefl _ (same ▸ first)
          · exact String.lt_irrefl _ (String.lt_trans first (before _ later))
        rw [lookup_cons_eq_ite]
        split
        next own => simp [own, absent]
        next => rfl
      next =>
        split
        next same => simp +contextual [lookup_cons_eq_ite, same]
        next other =>
          rw [lookup_cons_eq_ite, lookup_cons_eq_ite, ih rest]
          grind

variable {l next : Ledger} {tool : String} {entry : Entry}

/-- Tools in order stay so when an entry is added. -/
theorem sorted_append (sorted : l.tools.Pairwise (· < ·))
    (added : l.append tool entry = .ok next)
    : next.tools.Pairwise (· < ·) := by
  obtain ⟨-, -, rfl⟩ := append_eq_ok.mp added
  rw [tools, map_fst_extend]
  exact sorted_insertName _ sorted

/-- An added entry is the last of its tool, and other tools keep their entries. -/
theorem entriesOf_append (sorted : l.tools.Pairwise (· < ·))
    (added : l.append tool entry = .ok next) (other : String)
    : next.entriesOf other
      = if other = tool then l.entriesOf other ++ [entry] else l.entriesOf other := by
  obtain ⟨rfl, -, rfl⟩ := append_eq_ok.mp added
  simp only [entriesOf, lookup_extend entry sorted]
  split <;> rfl

-----------------------------------------------------------------------------------------
-- The last series
-----------------------------------------------------------------------------------------

/-- The series of a tool, which is there only if it has entries. -/
def seriesOf (tool : String) (entries : List Entry) : List (String × List Entry) :=
  if entries = [] then [] else [(tool, entries)]

/-- An entry of the last tool is added at the end of the ledger. -/
theorem extend_last (entry : Entry) {done : List (String × List Entry)}
    (last : ∀ s ∈ done, s.1 < entry.tool) (before : List Entry)
    : extend entry (done ++ seriesOf entry.tool before)
      = done ++ seriesOf entry.tool (before ++ [entry]) := by
  induction done with
  | nil =>
      by_cases empty : before = []
      · simp [seriesOf, empty, extend]
      · simp only [seriesOf, empty, ↓reduceIte, List.nil_append, extend, String.lt_irrefl,
          List.append_eq_nil_iff, List.cons_ne_self, and_self]
  | cons s done ih =>
      obtain ⟨first, last⟩ := List.forall_mem_cons.mp last
      have other : entry.tool ≠ s.1 := by
        intro same
        rw [same] at first
        exact String.lt_irrefl _ first
      rw [List.cons_append, extend, if_neg (String.lt_asymm first), if_neg other, ih last,
        List.cons_append]

theorem entriesOf_last {l : Ledger} {tool : String} {done : List (String × List Entry)}
    (last : ∀ s ∈ done, s.1 < tool) {before : List Entry}
    (shape : l.series = done ++ seriesOf tool before)
    : l.entriesOf tool = before := by
  rw [entriesOf, shape, List.lookup_append, lookup_eq_none (not_mem_of_last last), Option.none_or]
  by_cases empty : before = []
  · simp [seriesOf, empty]
  · simp [seriesOf, empty]

end Ledger

end PerfLedger
