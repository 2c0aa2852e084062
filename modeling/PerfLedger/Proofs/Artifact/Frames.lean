import Mathlib.Data.List.Basic
import Mathlib.Data.List.TakeWhile
import PerfLedger.Artifact.Script

/-! The script around data, as a grammar: blanks, an assignment to the global name or nothing,
and a semicolon or nothing. The data inside is what is framed, and nothing else is data.
-/

namespace PerfLedger

-----------------------------------------------------------------------------------------
-- Blanks
-----------------------------------------------------------------------------------------

/-- Nothing but blanks. -/
def IsBlank (text : List Char) : Prop := ∀ c ∈ text, isBlank c = true

theorem IsBlank.append {left right : List Char} (hl : IsBlank left) (hr : IsBlank right)
    : IsBlank (left ++ right) :=
  List.forall_mem_append.mpr ⟨hl, hr⟩

theorem trimStart_blank {space : List Char} (blank : IsBlank space) (text : List Char)
    : trimStart (space ++ text) = trimStart text :=
  List.dropWhile_append_of_pos blank

theorem trimStart_visible {text : List Char} (start : ∀ c ∈ text.head?, isBlank c = false)
    : trimStart text = text := by
  cases text with
  | nil => rfl
  | cons c text => simp [trimStart, start c rfl]

theorem trimEnd_blank {space : List Char} (blank : IsBlank space) (text : List Char)
    : trimEnd (text ++ space) = trimEnd text := by
  have turned : ∀ c ∈ space.reverse, isBlank c = true := by simpa [IsBlank] using blank
  rw [trimEnd, List.reverse_append, List.dropWhile_append_of_pos turned, trimEnd]

theorem trimEnd_visible {text : List Char} (finish : ∀ c ∈ text.getLast?, isBlank c = false)
    : trimEnd text = text := by
  have kept : trimStart text.reverse = text.reverse :=
    trimStart_visible fun c front => finish c (by simpa using front)
  rw [trimEnd, ← trimStart, kept, List.reverse_reverse]

/-- Text between characters that are visible has no blanks at its ends. -/
theorem trim_append {first last : Char} (text : List Char) (start : isBlank first = false)
    (finish : isBlank last = false)
    : trim (first :: text ++ [last]) = first :: text ++ [last] := by
  have kept : trimStart (first :: text ++ [last]) = first :: text ++ [last] :=
    trimStart_visible fun c front => Option.some.inj front ▸ start
  rw [trim, kept, trimEnd_visible]
  intro c back
  rw [List.getLast?_concat] at back
  exact Option.some.inj back ▸ finish

theorem exists_trimStart (text : List Char)
    : ∃ before, text = before ++ trimStart text ∧ IsBlank before :=
  ⟨text.takeWhile isBlank, List.takeWhile_append_dropWhile.symm,
    fun _ member => List.mem_takeWhile_imp member⟩

theorem exists_trimEnd (text : List Char)
    : ∃ after, text = trimEnd text ++ after ∧ IsBlank after := by
  obtain ⟨before, parts, blank⟩ := exists_trimStart text.reverse
  refine ⟨before.reverse, ?_, fun c member => blank c (List.mem_reverse.mp member)⟩
  rw [trimEnd, ← trimStart, ← List.reverse_append, ← parts, List.reverse_reverse]

theorem exists_trim (text : List Char)
    : ∃ before after, text = before ++ (trim text ++ after) ∧ IsBlank before ∧ IsBlank after := by
  obtain ⟨before, front, blank⟩ := exists_trimStart text
  obtain ⟨after, back, blank'⟩ := exists_trimEnd (trimStart text)
  exact ⟨before, after, front.trans (congrArg _ back), blank, blank'⟩

theorem trim_append_blank {space : List Char} (blank : IsBlank space) (text : List Char)
    : trim (text ++ space) = trim text := by
  rw [trim, trim, trimStart, trimStart, List.dropWhile_append]
  split
  next nothing =>
    have space : space.dropWhile isBlank = [] := List.dropWhile_eq_nil_iff.mpr blank
    rw [space, List.isEmpty_iff.mp nothing]
  next => exact trimEnd_blank blank _

/-- Blanks around a text make no difference when it is trimmed. -/
theorem trim_blank {before after : List Char} (blank : IsBlank before) (blank' : IsBlank after)
    (text : List Char)
    : trim (before ++ (text ++ after)) = trim text := by
  rw [trim, trimStart_blank blank, ← trim, trim_append_blank blank']

theorem trimEnd_trimEnd (text : List Char) : trimEnd (trimEnd text) = trimEnd text := by
  obtain ⟨after, whole, blank⟩ := exists_trimEnd text
  conv_rhs => rw [whole, trimEnd_blank blank]

theorem trim_trim (text : List Char) : trim (trim text) = trim text := by
  obtain ⟨before, after, whole, blank, blank'⟩ := exists_trim text
  conv_rhs => rw [whole, trim_blank blank blank']

theorem trim_trimEnd (text : List Char) : trim (trimEnd text) = trim text := by
  obtain ⟨after, whole, blank⟩ := exists_trimEnd text
  conv_rhs => rw [whole, trim_append_blank blank]

/-- Nothing behind a visible character is at the start of a text. -/
theorem trimStart_append_cons {c : Char} (visible : isBlank c = false) (text more : List Char)
    : trimStart (text ++ c :: more) = trimStart text ++ c :: more := by
  rw [trimStart, trimStart, List.dropWhile_append]
  split
  next nothing => rw [List.isEmpty_iff.mp nothing, List.dropWhile_cons, visible]; rfl
  next => rfl

/-- Nothing before a visible character is at the end of a text. -/
theorem trimEnd_append_cons {c : Char} (visible : isBlank c = false) (text more : List Char)
    : trimEnd (text ++ c :: more) = text ++ c :: trimEnd more := by
  have turned : (text ++ c :: more).reverse = more.reverse ++ c :: text.reverse := by simp
  rw [trimEnd, turned, ← trimStart, trimStart_append_cons visible]
  simp [trimEnd, trimStart]

namespace Artifact

-----------------------------------------------------------------------------------------
-- Frames
-----------------------------------------------------------------------------------------

/-- What may stand in front of the data of a script, apart from blanks. -/
inductive Opening : List Char → Prop where
  | absent : Opening []
  | assignment {space : List Char} (blank : IsBlank space)
      : Opening (scriptGlobal.toList ++ (space ++ ['=']))

/-- What may stand behind the data of a script, apart from blanks at the end. -/
inductive Ending : List Char → Prop where
  | absent : Ending []
  | semicolon {space : List Char} (blank : IsBlank space) : Ending (space ++ [';'])

/-- A script with its data. -/
inductive Frames (data : List Char) : List Char → Prop where
  | parts {before opening between ending after : List Char} (blankBefore : IsBlank before)
      (opens : Opening opening) (blankBetween : IsBlank between) (ends : Ending ending)
      (blankAfter : IsBlank after)
      : Frames data (before ++ (opening ++ (between ++ (data ++ (ending ++ after)))))

/-- Data that neither starts with the global name nor ends with a semicolon, blanks apart. -/
structure Plain (data : List Char) : Prop where
  start : ¬ scriptGlobal.toList <+: trim data
  finish : (trim data).getLast? ≠ some ';'

/-- Data that no part of a script can be taken for. -/
structure Apart (data : List Char) : Prop where
  nonempty : data ≠ []
  start : ∀ c ∈ data.head?, isBlank c = false ∧ c ≠ 'w'
  finish : ∀ c ∈ data.getLast?, isBlank c = false ∧ c ≠ ';'

-----------------------------------------------------------------------------------------
-- Data of a frame
-----------------------------------------------------------------------------------------

/-- A head is dropped from the text it stands in front of, by induction on the head. -/
theorem dropHead?_append (head text : List Char) : dropHead? head (head ++ text) = some text := by
  induction head with
  | nil => cases text <;> rfl
  | cons c head ih => simpa [dropHead?] using ih

/-- A head that is dropped stood in front, by induction on the head. -/
theorem eq_append_of_dropHead? {head text rest : List Char}
    (dropped : dropHead? head text = some rest)
    : text = head ++ rest := by
  fun_induction dropHead? head text with
  | case1 => exact Option.some.inj dropped
  | case2 => contradiction
  | case3 _ _ _ ih => exact congrArg _ (ih dropped)
  | case4 => contradiction

/-- What a text starts with it starts with before characters among which the last is not. -/
theorem prefix_of_append {head text more : List Char} (start : head <+: text ++ more)
    (last : ∀ c ∈ head.getLast?, c ∉ more)
    : head <+: text := by
  rcases List.prefix_or_prefix_of_prefix start (List.prefix_append text more)
    with whole | ⟨rest, rfl⟩
  · exact whole
  · have inside := (List.prefix_append_right_inj text).mp start
    rcases List.eq_nil_or_concat rest with rfl | ⟨front, c, rfl⟩
    · exact (List.append_nil text).symm ▸ List.prefix_rfl
    · have final : c ∈ (text ++ front.concat c).getLast? := by
        rw [List.concat_eq_append, ← List.append_assoc, List.getLast?_concat]
        rfl
      exact absurd (inside.subset (by simp)) (last c final)

variable {data : List Char}

/-- A semicolon between blanks keeps its place when the text is trimmed. -/
theorem trim_semicolon {before space after : List Char} (blank : IsBlank before)
    (blank' : IsBlank after) (text : List Char)
    : trim (before ++ (text ++ (space ++ [';'] ++ after)))
      = trimStart (text ++ space) ++ [';'] := by
  have whole : text ++ (space ++ [';'] ++ after) = text ++ space ++ [';'] ++ after := by simp
  rw [whole, trim_blank blank blank', trim, trimStart_append_cons rfl, trimEnd_append_cons rfl]
  rfl

/-- Blanks around the data of a script and a semicolon behind it are no part of the data. -/
theorem Plain.body_eq (h : Plain data) {between ending after : List Char}
    (blank : IsBlank between) (ends : Ending ending) (blank' : IsBlank after)
    : payload.body (between ++ (data ++ (ending ++ after))) = trim data := by
  unfold payload.body
  cases ends with
  | absent =>
      rw [List.nil_append, trim_blank blank blank', dropSemicolon, if_neg h.finish, trim,
        trimEnd_trimEnd]
  | semicolon blankSpace =>
      rw [trim_semicolon blank blank', dropSemicolon, List.getLast?_concat, if_pos rfl,
        List.dropLast_concat, ← trim, trim_append_blank blankSpace]

/-- A text around data does not start with the global name, if there is no assignment in it. -/
theorem Plain.not_named (h : Plain data) {between ending after : List Char}
    (blank : IsBlank between) (ends : Ending ending) (blank' : IsBlank after)
    : ¬ scriptGlobal.toList <+: trim (between ++ (data ++ (ending ++ after))) := by
  have last : scriptGlobal.toList.getLast? = some 'A' := by decide
  intro named
  cases ends with
  | absent =>
      rw [List.nil_append, trim_blank blank blank'] at named
      exact h.start named
  | @semicolon space blankSpace =>
      rw [trim_semicolon blank blank'] at named
      have named := prefix_of_append named (by simp [last])
      obtain ⟨rest, whole, blankRest⟩ := exists_trimEnd (trimStart (data ++ space))
      rw [← trim, trim_append_blank blankSpace] at whole
      rw [whole] at named
      refine h.start (prefix_of_append named fun c final member => ?_)
      obtain rfl : 'A' = c := Option.some.inj (last.symm.trans final)
      exact absurd (blankRest 'A' member) (by decide)

/-- The data of a script is the data that is framed, without the blanks at its ends. -/
theorem Frames.payload_trim {text : List Char} (h : Frames data text) (plain : Plain data)
    : payload text = .ok (trim data) := by
  obtain ⟨blankBefore, opens, blankBetween, ends, blankAfter⟩ := h
  rename_i before opening between ending after
  unfold payload
  cases opens with
  | absent =>
      have same : trim (before ++ ([] ++ (between ++ (data ++ (ending ++ after)))))
          = trim (between ++ (data ++ (ending ++ after))) := by
        rw [List.nil_append, trim, trimStart_blank blankBefore, ← trim]
      have other : dropHead? scriptGlobal.toList (trim (between ++ (data ++ (ending ++ after))))
          = none := by
        refine Option.eq_none_iff_forall_ne_some.mpr fun rest named => ?_
        refine plain.not_named blankBetween ends blankAfter ?_
        exact ⟨rest, (eq_append_of_dropHead? named).symm⟩
      simp only [same, other]
      rw [← plain.body_eq blankBetween ends blankAfter, payload.body, payload.body, trim_trim]
  | @assignment space blank =>
      let inside := between ++ (data ++ (ending ++ after))
      have whole : scriptGlobal.toList ++ (space ++ ['=']) ++ inside
          = scriptGlobal.toList ++ space ++ '=' :: inside := by simp
      have trimmed : trim (before ++ (scriptGlobal.toList ++ (space ++ ['=']) ++ inside))
          = scriptGlobal.toList ++ (space ++ '=' :: trimEnd inside) := by
        rw [trim, trimStart_blank blankBefore, trimStart_visible, whole,
          trimEnd_append_cons rfl, List.append_assoc]
        intro c front
        obtain rfl : 'w' = c := Option.some.inj front
        rfl
      have assigned : dropHead? ['='] (trimStart (space ++ '=' :: trimEnd inside))
          = some (trimEnd inside) := by
        rw [trimStart_blank blank]
        exact dropHead?_append ['='] _
      simp only [inside, trimmed, dropHead?_append, assigned]
      rw [← plain.body_eq blankBetween ends blankAfter, payload.body, payload.body, trim_trimEnd]

/-- Data between other characters has no blanks at its ends. -/
theorem Apart.trim_eq (h : Apart data) : trim data = data := by
  rw [trim, trimStart_visible fun c front => (h.start c front).1,
    trimEnd_visible fun c back => (h.finish c back).1]

theorem Apart.plain (h : Apart data) : Plain data := by
  constructor
  · rintro ⟨rest, whole⟩
    rw [h.trim_eq] at whole
    exact (h.start 'w' (whole ▸ rfl)).2 rfl
  · rw [h.trim_eq]
    exact fun last => (h.finish ';' last).2 rfl

/-- The data of a script is the data that is framed. -/
theorem Frames.payload_eq {text : List Char} (h : Frames data text) (apart : Apart data)
    : payload text = .ok data := by
  rw [h.payload_trim apart.plain, apart.trim_eq]

/-- The text of an object is no part of a script. -/
theorem apart_object (inside : List Char) : Apart ('{' :: inside ++ ['}']) := by
  refine ⟨List.cons_ne_nil _ _, ?_, ?_⟩
  · intro c front
    obtain rfl := Option.some.inj front
    decide
  · intro c back
    rw [List.getLast?_concat] at back
    obtain rfl := Option.some.inj back
    decide

/-- A written script is an assignment with single spaces, and no semicolon. -/
theorem frames_script (data : List Char) : Frames data (scriptHead.toList ++ data) := by
  have blank : IsBlank [' '] := List.forall_mem_singleton.mpr rfl
  have framed : Frames data _ :=
    .parts (List.forall_mem_nil _) (.assignment blank) blank .absent (List.forall_mem_nil _)
  have head : scriptHead.toList = scriptGlobal.toList ++ ([' '] ++ ['=']) ++ [' '] := by
    rw [scriptHead, String.toList_append]
    rfl
  simpa [head] using framed

-----------------------------------------------------------------------------------------
-- Frames of data
-----------------------------------------------------------------------------------------

theorem exists_dropSemicolon (text : List Char)
    : ∃ ending, text = dropSemicolon text ++ ending ∧ (ending = [] ∨ ending = [';']) := by
  unfold dropSemicolon
  split
  next last =>
    obtain ⟨front, rfl⟩ := List.getLast?_eq_some_iff.mp last
    exact ⟨[';'], by rw [List.dropLast_concat], .inr rfl⟩
  next => exact ⟨[], (List.append_nil _).symm, .inl rfl⟩

/-- The data of a text stands in it between blanks, in front of a semicolon or none. -/
theorem exists_body (text : List Char)
    : ∃ between ending after, text = between ++ (payload.body text ++ (ending ++ after))
        ∧ IsBlank between ∧ Ending ending ∧ IsBlank after := by
  obtain ⟨between, after, whole, blank, blank'⟩ := exists_trim text
  obtain ⟨mark, marked, either⟩ := exists_dropSemicolon (trim text)
  obtain ⟨space, spaced, blankSpace⟩ := exists_trimEnd (dropSemicolon (trim text))
  have inside : trim text = payload.body text ++ (space ++ mark) := by
    rw [payload.body, ← List.append_assoc, ← spaced, ← marked]
  rcases either with rfl | rfl
  · refine ⟨between, [], space ++ after, ?_, blank, .absent, blankSpace.append blank'⟩
    rw [inside] at whole
    simpa using whole
  · refine ⟨between, space ++ [';'], after, ?_, blank, .semicolon blankSpace, blank'⟩
    rw [inside] at whole
    simpa using whole

/-- A text with data is a script around it. -/
theorem frames_of_payload {text : List Char} (read : payload text = .ok data)
    : Frames data text := by
  obtain ⟨before, after, whole, blank, blank'⟩ := exists_trim text
  unfold payload at read
  dsimp only at read
  split at read
  next =>
    obtain ⟨between, ending, last, parts, blankBetween, ends, blankLast⟩ := exists_body (trim text)
    rw [Except.ok.inj read] at parts
    rw [parts] at whole
    have framed : Frames data _ :=
      .parts blank .absent blankBetween ends (blankLast.append blank')
    simpa [whole] using framed
  next rest named =>
    split at read
    next assigned marked =>
      obtain ⟨space, start, blankSpace⟩ := exists_trimStart rest
      obtain ⟨between, ending, last, parts, blankBetween, ends, blankLast⟩ := exists_body assigned
      rw [Except.ok.inj read] at parts
      rw [eq_append_of_dropHead? marked, parts] at start
      rw [eq_append_of_dropHead? named, start] at whole
      have framed : Frames data _ :=
        .parts blank (.assignment blankSpace) blankBetween ends (blankLast.append blank')
      simpa [whole] using framed
    next => contradiction

/-- Blanks at either end of the data can as well be counted to the script around it. -/
theorem Frames.inner {left inside right text : List Char}
    (h : Frames (left ++ (inside ++ right)) text) (blankLeft : IsBlank left)
    (blankRight : IsBlank right)
    : Frames inside text := by
  obtain ⟨blankBefore, opens, blankBetween, ends, blankAfter⟩ := h
  cases ends with
  | absent =>
      have framed : Frames inside _ :=
        .parts blankBefore opens (blankBetween.append blankLeft) .absent
          (blankRight.append blankAfter)
      simpa using framed
  | semicolon blank =>
      have framed : Frames inside _ :=
        .parts blankBefore opens (blankBetween.append blankLeft)
          (.semicolon (blankRight.append blank)) blankAfter
      simpa using framed

end Artifact

end PerfLedger
