import Mathlib.Data.List.DropRight
import PerfLedger.Disk.Path

/-! The directory of a path leads through the same names as the path, up to the last. -/

namespace PerfLedger.Path

-----------------------------------------------------------------------------------------
-- Pieces
-----------------------------------------------------------------------------------------

theorem segments_ne_nil (text : List Char) : segments text ≠ [] := by
  cases text with
  | nil => simp [segments]
  | cons c text =>
      unfold segments
      split
      · simp
      · split <;> simp

theorem slash_not_mem_segments {text piece : List Char} (member : piece ∈ segments text)
    : '/' ∉ piece := by
  induction text generalizing piece with
  | nil =>
      obtain rfl := List.mem_singleton.mp member
      simp
  | cons c text ih =>
      unfold segments at member
      split at member
      next =>
        rcases List.mem_cons.mp member with rfl | member
        · simp
        · exact ih member
      next other =>
        split at member
        next first more shape =>
          rcases List.mem_cons.mp member with rfl | member
          · have inside := ih (shape ▸ List.mem_cons_self : first ∈ segments text)
            simp [inside, Ne.symm other]
          · exact ih (shape ▸ List.mem_cons_of_mem _ member)
        next empty => exact absurd empty (segments_ne_nil text)

theorem segments_of_not_mem {text : List Char} (plain : '/' ∉ text) : segments text = [text] := by
  induction text with
  | nil => rfl
  | cons c text ih =>
      rw [List.mem_cons, not_or] at plain
      rw [segments, if_neg (Ne.symm plain.1), ih plain.2]

/-- Pieces end at the first slash. -/
theorem segments_append {piece : List Char} (plain : '/' ∉ piece) (text : List Char)
    : segments (piece ++ '/' :: text) = piece :: segments text := by
  induction piece with
  | nil => simp [segments]
  | cons c piece ih =>
      rw [List.mem_cons, not_or] at plain
      rw [List.cons_append, segments, if_neg (Ne.symm plain.1), ih plain.2]

/-- Joined pieces come apart again, by induction on their number. -/
theorem segments_joined {pieces : List (List Char)} (nonempty : pieces ≠ [])
    (plain : ∀ piece ∈ pieces, '/' ∉ piece)
    : segments (joined pieces) = pieces := by
  induction pieces with
  | nil => contradiction
  | cons piece pieces ih =>
      obtain ⟨first, plain⟩ := List.forall_mem_cons.mp plain
      cases pieces with
      | nil => exact segments_of_not_mem first
      | cons next pieces =>
          rw [joined, segments_append first, ih (List.cons_ne_nil _ _) plain]
          simp

-----------------------------------------------------------------------------------------
-- Names
-----------------------------------------------------------------------------------------

/-- The pieces that lead somewhere. -/
def names (pieces : List (List Char)) : List String :=
  (pieces.filter fun piece => !isIdle piece).map String.ofList

theorem steps_eq (path : String) : steps path = names (segments path.toList) := rfl

theorem settled_cons (first : List Char) (more : List (List Char))
    : settled (first :: more) = first :: more.rdropWhile isIdle :=
  rfl

theorem names_append (left right : List (List Char))
    : names (left ++ right) = names left ++ names right := by
  simp [names]

theorem names_idle {piece : List Char} (idle : isIdle piece = true) : names [piece] = [] := by
  simp [names, idle]

theorem names_name {piece : List Char} (named : isIdle piece = false)
    : names [piece] = [String.ofList piece] := by
  simp [names, named]

/-- Idle pieces at the end are no names, by induction from the end. -/
theorem names_rdropWhile (pieces : List (List Char))
    : names (pieces.rdropWhile isIdle) = names pieces := by
  induction pieces using List.reverseRecOn with
  | nil => rfl
  | append_singleton pieces piece ih =>
      rw [List.rdropWhile_concat]
      split
      next idle => rw [ih, names_append, names_idle idle, List.append_nil]
      next => rfl

theorem names_settled (pieces : List (List Char)) : names (settled pieces) = names pieces := by
  cases pieces with
  | nil => rfl
  | cons first more =>
      have split (rest : List (List Char)) : names (first :: rest) = names [first] ++ names rest :=
        names_append [first] rest
      rw [settled_cons, split, names_rdropWhile, ← split]

/-- Behind their first, settled pieces end in a name. -/
theorem rdropWhile_shape (pieces : List (List Char))
    : pieces.rdropWhile isIdle = []
      ∨ ∃ before last, pieces.rdropWhile isIdle = before ++ [last] ∧ isIdle last = false := by
  by_cases empty : pieces.rdropWhile isIdle = []
  · exact .inl empty
  · refine .inr ⟨_, _, (List.dropLast_append_getLast empty).symm, ?_⟩
    simpa using List.rdropWhile_last_not isIdle pieces empty

/-- Without the last of its settled pieces a path leads through all names but the last. -/
theorem names_dropLast_settled (pieces : List (List Char))
    : names (settled pieces).dropLast = (names pieces).dropLast := by
  rw [← names_settled pieces]
  cases pieces with
  | nil => rfl
  | cons first more =>
      rw [settled_cons]
      rcases rdropWhile_shape more with empty | ⟨before, last, shape, named⟩
      · rw [empty]
        cases idle : isIdle first with
        | true => rw [names_idle idle]; rfl
        | false => rw [names_name idle]; rfl
      · rw [shape, ← List.cons_append, List.dropLast_concat, names_append, names_name named,
          List.dropLast_concat]

-----------------------------------------------------------------------------------------
-- The directory of a path
-----------------------------------------------------------------------------------------

/-- The pieces that the directory of a path is joined from. -/
def directoryPieces (path : String) : List (List Char) :=
  settled (settled (segments path.toList)).dropLast

/-- The pieces of the directory hold no slash, being among those of the path. -/
theorem slash_not_mem_directoryPieces {path : String} {piece : List Char}
    (member : piece ∈ directoryPieces path)
    : '/' ∉ piece := by
  have inside {pieces : List (List Char)} (present : piece ∈ settled pieces) : piece ∈ pieces := by
    cases pieces with
    | nil => exact present
    | cons first more =>
        rw [settled_cons] at present
        rcases List.mem_cons.mp present with rfl | later
        · exact List.mem_cons_self
        · exact List.mem_cons_of_mem _ ((List.rdropWhile_prefix _ _).subset later)
  exact slash_not_mem_segments (inside (List.dropLast_subset _ (inside member)))

/-- The pieces of a directory come apart again, but for the two that have no piece. -/
theorem segments_directoryOf (path : String)
    : segments (directoryOf path).toList
      = match directoryPieces path with
        | [] => [['.']]
        | [[]] => [[], []]
        | pieces => pieces := by
  have plain : ∀ piece ∈ directoryPieces path, '/' ∉ piece :=
    fun _ => slash_not_mem_directoryPieces
  unfold directoryOf
  rw [show settled (settled (segments path.toList)).dropLast = directoryPieces path from rfl]
  generalize directoryPieces path = pieces at plain
  match pieces with
  | [] => rfl
  | [[]] => rfl
  | (c :: piece) :: more =>
      exact (congrArg _ String.toList_ofList).trans (segments_joined (by simp) plain)
  | [] :: piece :: more =>
      exact (congrArg _ String.toList_ofList).trans (segments_joined (by simp) plain)

/-- The directory of a path leads through its names, up to the last. -/
theorem steps_directoryOf (path : String)
    : steps (directoryOf path) = (steps path).dropLast := by
  have pieces : names (directoryPieces path) = (steps path).dropLast := by
    rw [directoryPieces, names_settled, names_dropLast_settled, steps_eq]
  rw [← pieces, steps_eq, segments_directoryOf]
  split
  next empty => rw [empty]; rfl
  next root => rw [root]; rfl
  next => rfl

/-- A text starts with a slash exactly when an empty piece stands before another one. -/
theorem head?_eq_slash_iff (text : List Char)
    : text.head? = some '/' ↔ ∃ piece more, segments text = [] :: piece :: more := by
  cases text with
  | nil => simp [segments]
  | cons c text =>
      by_cases slash : c = '/'
      · obtain ⟨piece, more, shape⟩ := List.exists_cons_of_ne_nil (segments_ne_nil text)
        simp [segments, slash, shape]
      · obtain ⟨piece, more, shape⟩ := List.exists_cons_of_ne_nil (segments_ne_nil text)
        simp [segments, slash, shape]

/-- The directory of a path starts at the root when the path does, unless the path leads
nowhere.
-/
theorem isAbsolute_directoryOf {path : String} (nonempty : steps path ≠ [])
    : isAbsolute (directoryOf path) = isAbsolute path := by
  obtain ⟨first, more, shape⟩ := List.exists_cons_of_ne_nil (segments_ne_nil path.toList)
  have pieces
      : directoryPieces path = settled (first :: more.rdropWhile isIdle).dropLast := by
    rw [directoryPieces, shape, settled_cons]
  rw [Bool.eq_iff_iff, isAbsolute, isAbsolute, beq_iff_eq, beq_iff_eq, head?_eq_slash_iff,
    head?_eq_slash_iff, segments_directoryOf, shape]
  rcases rdropWhile_shape more with empty | ⟨before, last, settledMore, named⟩
  · have notEmpty : first ≠ [] := by
      intro same
      subst same
      rw [steps_eq, ← names_settled, shape, settled_cons, empty] at nonempty
      exact nonempty rfl
    have alone : directoryPieces path = [] := by rw [pieces, empty]; rfl
    simp [alone, notEmpty]
  · have longer : ∃ piece rest, more = piece :: rest := by
      refine List.exists_cons_of_ne_nil ?_
      intro same
      subst same
      simp at settledMore
    obtain ⟨piece, rest, rfl⟩ := longer
    rw [pieces, settledMore, ← List.cons_append, List.dropLast_concat, settled_cons]
    cases first with
    | nil => cases before.rdropWhile isIdle <;> simp
    | cons c first => cases before.rdropWhile isIdle <;> simp

end PerfLedger.Path
