import Mathlib.Data.List.Forall2

/-! Computations that may fail, taken apart: a sequence succeeds when each of its steps does,
and what every step keeps is kept by the whole sequence.
-/

namespace PerfLedger

variable {σ ε ε' α β : Type}

/-- A sequence succeeds when both of its parts do. -/
theorem bind_eq_ok {first : Except ε α} {next : α → Except ε β} {result : β}
    : (first >>= next) = .ok result ↔ ∃ value, first = .ok value ∧ next value = .ok result := by
  cases first with
  | error cause => exact ⟨(nomatch ·), fun ⟨_, h, _⟩ => nomatch h⟩
  | ok value => exact ⟨fun h => ⟨value, rfl, h⟩, fun ⟨_, same, h⟩ => Except.ok.inj same ▸ h⟩

theorem bind_eq_of_ok {first : Except ε α} {value : α} {next : α → Except ε β}
    (h : first = .ok value)
    : (first >>= next) = next value := by
  rw [h]
  rfl

theorem bind_eq_of_error {first : Except ε α} {cause : ε} {next : α → Except ε β}
    (h : first = .error cause)
    : (first >>= next) = .error cause := by
  rw [h]
  rfl

theorem map_eq_ok {first : Except ε α} {change : α → β} {result : β}
    : (change <$> first) = .ok result ↔ ∃ value, first = .ok value ∧ change value = result := by
  cases first with
  | error cause => exact ⟨(nomatch ·), fun ⟨_, h, _⟩ => nomatch h⟩
  | ok value =>
      exact ⟨fun h => ⟨value, rfl, Except.ok.inj h⟩,
        fun ⟨_, same, h⟩ => congrArg Except.ok (Except.ok.inj same ▸ h)⟩

/-- What every step of a run keeps is kept by the run, by induction on its items. -/
theorem foldlM_invariant (Kept : β → Prop) {step : β → α → Except ε β} {items : List α}
    (each : ∀ item ∈ items, ∀ state next, Kept state → step state item = .ok next → Kept next)
    {start result : β} (kept : Kept start) (run : items.foldlM step start = .ok result)
    : Kept result := by
  induction items generalizing start with
  | nil => exact Except.ok.inj run ▸ kept
  | cons item items ih =>
      obtain ⟨first, others⟩ := List.forall_mem_cons.mp each
      rw [List.foldlM_cons] at run
      obtain ⟨next, stepped, rest⟩ := bind_eq_ok.mp run
      exact ih others (first start next kept stepped) rest

/-- Every step of a run that succeeds has succeeded, by induction on its items. -/
theorem exists_step_of_foldlM {step : β → α → Except ε β} {items : List α} {start result : β}
    (run : items.foldlM step start = .ok result)
    : ∀ item ∈ items, ∃ state next, step state item = .ok next := by
  induction items generalizing start with
  | nil => exact List.forall_mem_nil _
  | cons item items ih =>
      rw [List.foldlM_cons] at run
      obtain ⟨next, stepped, rest⟩ := bind_eq_ok.mp run
      exact List.forall_mem_cons.mpr ⟨⟨start, next, stepped⟩, ih rest⟩

theorem exists_mem_of_forall₂ {R : α → β → Prop} {left : List α} {right : List β}
    (h : List.Forall₂ R left right)
    : ∀ x ∈ left, ∃ y ∈ right, R x y := by
  induction h with
  | nil => exact List.forall_mem_nil _
  | cons first _ ih =>
      refine List.forall_mem_cons.mpr ⟨⟨_, List.mem_cons_self, first⟩, fun x member => ?_⟩
      obtain ⟨y, present, related⟩ := ih x member
      exact ⟨y, List.mem_cons_of_mem _ present, related⟩

/-- A list is computed when each of its items is, by induction on them. -/
theorem mapM_eq_ok_iff {compute : α → Except ε β} {items : List α} {values : List β}
    : items.mapM compute = .ok values
      ↔ List.Forall₂ (fun item value => compute item = .ok value) items values := by
  induction items generalizing values with
  | nil =>
      rw [List.forall₂_nil_left_iff]
      exact ⟨fun h => (Except.ok.inj h).symm, fun h => congrArg Except.ok h.symm⟩
  | cons item items ih =>
      rw [List.mapM_cons, bind_eq_ok, List.forall₂_cons_left_iff]
      refine exists_congr fun value => ⟨?_, ?_⟩
      · rintro ⟨computed, rest⟩
        obtain ⟨others, rest, same⟩ := bind_eq_ok.mp rest
        exact ⟨others, computed, ih.mp rest, (Except.ok.inj same).symm⟩
      · rintro ⟨others, computed, rest, rfl⟩
        exact ⟨computed, bind_eq_ok.mpr ⟨others, ih.mpr rest, rfl⟩⟩

/-- A sequence goes on with the answer of its first part, and stops at an error. -/
theorem bind_apply (first : ExceptT ε (StateM σ) β) (next : β → ExceptT ε (StateM σ) α) (s : σ)
    : (first >>= next) s
      = match first s with
        | (.ok value, s) => next value s
        | (.error cause, s) => (.error cause, s) := by
  change ExceptT.bindCont next (first s).1 (first s).2 = _
  rcases first s with ⟨value | cause, after⟩ <;> rfl

/-- A handler goes on from where the error left the state. -/
theorem tryCatch_apply (body : ExceptT ε (StateM σ) α) (handler : ε → ExceptT ε (StateM σ) α)
    (s : σ)
    : tryCatch body handler s
      = match body s with
        | (.ok value, s) => (.ok value, s)
        | (.error cause, s) => handler cause s := by
  change (match (body s).1 with
    | .ok value => (pure (Except.ok value) : StateM σ (Except ε α))
    | .error cause => handler cause) (body s).2 = _
  rcases body s with ⟨cause | value, after⟩ <;> rfl

theorem adapt_apply (body : ExceptT ε (StateM σ) α) (rename : ε → ε') (s : σ)
    : body.adapt rename s = ((body s).1.mapError rename, (body s).2) :=
  rfl

end PerfLedger
