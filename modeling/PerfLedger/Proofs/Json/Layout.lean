import PerfLedger.Json.Printer
import PerfLedger.Proofs.Json.Documents
import PerfLedger.Proofs.Json.Tokens

/-! The layout of documents, given how numbers are written. Containers stand in blocks, one part
to a line, and two layouts of a value are the same text only if all its numbers are.
-/

namespace PerfLedger

-----------------------------------------------------------------------------------------
-- Values
-----------------------------------------------------------------------------------------

namespace Json

/-- A fact about all values, from that fact about the values inside of them. -/
theorem induction {motive : Json → Prop} (null : motive null)
    (bool : ∀ value, motive (bool value)) (number : ∀ value, motive (number value))
    (text : ∀ value, motive (text value))
    (array : ∀ items, (∀ item ∈ items, motive item) → motive (array items))
    (object : ∀ members, (∀ member ∈ members, motive member.2) → motive (object members))
    (value : Json)
    : motive value :=
  @Json.rec motive (fun items => ∀ item ∈ items, motive item)
    (fun members => ∀ member ∈ members, motive member.2) (fun member => motive member.2)
    null bool number text array object
    (List.forall_mem_nil _) (fun _ _ head tail => List.forall_mem_cons.mpr ⟨head, tail⟩)
    (List.forall_mem_nil _) (fun _ _ head tail => List.forall_mem_cons.mpr ⟨head, tail⟩)
    (fun _ _ value => value) value

/-- What is made of each kind of value, once it is known for the values inside. -/
structure Algebra (α : Type) where
  null : α
  bool (value : Bool) : α
  number (value : JsonNumber) : α
  text (value : String) : α
  array (items : List α) : α
  object (members : List (String × α)) : α

mutual

/-- What is made of a value from the inside out. -/
def fold {α : Type} (a : Algebra α) : Json → α
  | null => a.null
  | bool value => a.bool value
  | number value => a.number value
  | text value => a.text value
  | array items => a.array (foldItems a items)
  | object members => a.object (foldMembers a members)

/-- What is made of the items of an array. -/
def foldItems {α : Type} (a : Algebra α) : List Json → List α
  | [] => []
  | item :: rest => item.fold a :: foldItems a rest

/-- What is made of the members of an object. -/
def foldMembers {α : Type} (a : Algebra α) : List (String × Json) → List (String × α)
  | [] => []
  | (name, value) :: rest => (name, value.fold a) :: foldMembers a rest

end

variable {α : Type} (a : Algebra α)

theorem fold_array (items : List Json) : (array items).fold a = a.array (items.map (fold a)) := by
  have each : foldItems a items = items.map (fold a) := by
    induction items with
    | nil => rfl
    | cons item rest ih => rw [foldItems, ih, List.map_cons]
  rw [fold, each]

theorem fold_object (members : List (String × Json))
    : (object members).fold a = a.object (members.map fun m => (m.1, m.2.fold a)) := by
  have each : foldMembers a members = members.map fun m => (m.1, m.2.fold a) := by
    induction members with
    | nil => rfl
    | cons member rest ih => rw [foldMembers, ih, List.map_cons]
  rw [fold, each]

/-- The numbers in a value, in their order. -/
def numbers : Json → List JsonNumber :=
  fold {
    null := []
    bool := fun _ => []
    number := fun value => [value]
    text := fun _ => []
    array := List.flatten
    object := fun members => (members.map Prod.snd).flatten }

@[simp]
theorem numbers_int (value : Int) : (int value).numbers = [.int value] := rfl

@[simp]
theorem numbers_text (value : String) : (text value).numbers = [] := rfl

@[simp]
theorem numbers_array (items : List Json) : (array items).numbers = items.flatMap numbers :=
  fold_array _ items

@[simp]
theorem numbers_object (members : List (String × Json))
    : (object members).numbers = members.flatMap fun m => m.2.numbers := by
  rw [numbers, fold_object]
  dsimp only
  rw [List.map_map]
  rfl

/-- A value with other numbers. -/
def mapNumbers (f : JsonNumber → JsonNumber) : Json → Json :=
  fold { null, bool, number := fun value => number (f value), text, array, object }

@[simp]
theorem mapNumbers_int (f : JsonNumber → JsonNumber) (value : Int)
    : (int value).mapNumbers f = number (f (.int value)) :=
  rfl

@[simp]
theorem mapNumbers_text (f : JsonNumber → JsonNumber) (value : String)
    : (text value).mapNumbers f = text value :=
  rfl

@[simp]
theorem mapNumbers_array (f : JsonNumber → JsonNumber) (items : List Json)
    : (array items).mapNumbers f = array (items.map (mapNumbers f)) :=
  fold_array _ items

@[simp]
theorem mapNumbers_object (f : JsonNumber → JsonNumber) (members : List (String × Json))
    : (object members).mapNumbers f = object (members.map fun m => (m.1, m.2.mapNumbers f)) :=
  fold_object _ members

end Json

-----------------------------------------------------------------------------------------
-- Texts
-----------------------------------------------------------------------------------------

/-- The four hexadecimal digits of a number of 16 bits. -/
def hexUnit (n : Nat) : List Char :=
  [n / 16 ^ 3 % 16, n / 16 ^ 2 % 16, n / 16 % 16, n % 16].map hexDigit

/-- A character of a text in a script: by its letter where there is one, a control character by
its number, and else by itself.
-/
def scriptChar (c : Char) : List Char :=
  match escapeLetter? c with
  | some letter => ['\\', letter]
  | none => if c.toNat < 0x20 then '\\' :: 'u' :: hexUnit c.toNat else [c]

/-- A text in a script. -/
def scriptText (s : String) : List Char := '"' :: (s.toList.flatMap scriptChar ++ ['"'])

/-- Documents write texts as scripts do. -/
theorem scriptText_eq (s : String) : scriptText s = quoted s := by
  have same (c : Char) : scriptChar c = escapeChar c := by
    rw [escapeChar_eq, scriptChar]
    cases escapeLetter? c with
    | some letter => rfl
    | none =>
        dsimp only
        split
        next control =>
          have third : c.toNat / 16 ^ 3 % 16 = 0 := by omega
          have second : c.toNat / 16 ^ 2 % 16 = 0 := by omega
          have first : c.toNat / 16 % 16 = c.toNat / 16 := by omega
          simp only [hexUnit, third, second, first, List.map_cons, List.map_nil]
          rfl
        next => rfl
  rw [scriptText, quoted, funext same]

-----------------------------------------------------------------------------------------
-- Blocks
-----------------------------------------------------------------------------------------

/-- The line break in front of a part of a block that starts after some indentation. -/
def partBreak (indent : List Char) : List Char := '\n' :: (indent ++ [' ', ' '])

/-- Parts between brackets, with commas between them, each on a line of its own two blanks
further in. Without parts the brackets stay closed up.
-/
def block (opening closing : Char) (indent : List Char) (parts : List (List Char)) : List Char :=
  if parts.isEmpty then [opening, closing]
  else
    opening :: (partBreak indent ++ (',' :: partBreak indent).intercalate parts
      ++ '\n' :: (indent ++ [closing]))

/-- The lines of a block, one after the other. -/
theorem block_cons (opening closing : Char) (indent first : List Char) (rest : List (List Char))
    : block opening closing indent (first :: rest)
      = opening :: (partBreak indent ++ (first
        ++ (rest.flatMap (',' :: partBreak indent ++ ·) ++ '\n' :: (indent ++ [closing])))) := by
  rw [block, if_neg (by simp), intercalate_cons_eq]
  simp only [List.append_assoc]

theorem block_ends (opening closing : Char) (first : List Char) (rest : List (List Char))
    : ∃ inside, block opening closing [] (first :: rest) = opening :: inside ++ [closing] :=
  ⟨partBreak [] ++ (first ++ (rest.flatMap (',' :: partBreak [] ++ ·) ++ ['\n'])),
    by simp [block_cons]⟩

namespace Json

/-- The text of a value in which numbers are written as given, after some indentation. -/
def layout (write : JsonNumber → List Char) : Json → List Char → List Char :=
  fold {
    null := fun _ => "null".toList
    bool := fun value _ => if value then "true".toList else "false".toList
    number := fun value _ => write value
    text := fun value _ => scriptText value
    array := fun items indent =>
      block '[' ']' indent (items.map fun item => item (indent ++ [' ', ' ']))
    object := fun members indent =>
      block '{' '}' indent (members.map fun m =>
        scriptText m.1 ++ ':' :: ' ' :: m.2 (indent ++ [' ', ' '])) }

variable {write write' : JsonNumber → List Char}

theorem layout_array (items : List Json) (indent : List Char)
    : (array items).layout write indent
      = block '[' ']' indent (items.map fun item => item.layout write (indent ++ [' ', ' '])) := by
  rw [layout, fold_array]
  dsimp only
  rw [List.map_map]
  rfl

theorem layout_object (members : List (String × Json)) (indent : List Char)
    : (object members).layout write indent
      = block '{' '}' indent (members.map fun m =>
          scriptText m.1 ++ ':' :: ' ' :: m.2.layout write (indent ++ [' ', ' '])) := by
  rw [layout, fold_object]
  dsimp only
  rw [List.map_map]
  rfl

/-- Other numbers are written as they are, by induction on the value. -/
theorem layout_mapNumbers (f : JsonNumber → JsonNumber) (value : Json) (indent : List Char)
    : (value.mapNumbers f).layout write indent = value.layout (write ∘ f) indent := by
  induction value using Json.induction generalizing indent with
  | null => rfl
  | bool value => rfl
  | number value => rfl
  | text value => rfl
  | array items ih =>
      rw [mapNumbers_array, layout_array, layout_array, List.map_map]
      exact congrArg _ (List.map_congr_left fun item member => ih item member _)
  | object members ih =>
      rw [mapNumbers_object, layout_object, layout_object, List.map_map]
      refine congrArg _ (List.map_congr_left fun m member => ?_)
      exact congrArg (scriptText m.1 ++ ':' :: ' ' :: ·) (ih m member _)

-----------------------------------------------------------------------------------------
-- Printed documents
-----------------------------------------------------------------------------------------

theorem lineBreak_succ (level : Nat)
    : lineBreak (level + 1) = partBreak (List.replicate (2 * level) ' ') := by
  rw [lineBreak, partBreak, Nat.mul_add, List.replicate_add]
  rfl

theorem printPrettyItems_eq (level : Nat) (first : Json) (rest : List Json)
    : printPrettyItems level (first :: rest)
      = lineBreak level ++ (first.printPretty level
        ++ rest.flatMap fun item => ',' :: lineBreak level ++ item.printPretty level) := by
  induction rest generalizing first with
  | nil => simp [printPrettyItems]
  | cons next rest ih =>
      rw [printPrettyItems, ih, List.flatMap_cons]
      · simp
      · nofun

theorem printPrettyMembers_eq (level : Nat) (first : String × Json)
    (rest : List (String × Json))
    : printPrettyMembers level (first :: rest)
      = lineBreak level ++ (quoted first.1 ++ ':' :: ' ' :: first.2.printPretty level
        ++ rest.flatMap fun m =>
          ',' :: lineBreak level ++ (quoted m.1 ++ ':' :: ' ' :: m.2.printPretty level)) := by
  induction rest generalizing first with
  | nil => simp [printPrettyMembers]
  | cons next rest ih =>
      rw [printPrettyMembers, ih, List.flatMap_cons]
      · simp
      · nofun

theorem printPretty_array_eq (level : Nat) (items : List Json)
    : (array items).printPretty level
      = block '[' ']' (List.replicate (2 * level) ' ') (items.map (printPretty (level + 1))) := by
  cases items with
  | nil => rfl
  | cons first rest =>
      rw [printPretty, printPrettyItems_eq, lineBreak_succ, List.map_cons, block_cons,
        List.flatMap_map]
      simp [lineBreak]

theorem printPretty_object_eq (level : Nat) (members : List (String × Json))
    : (object members).printPretty level
      = block '{' '}' (List.replicate (2 * level) ' ')
          (members.map fun m => quoted m.1 ++ ':' :: ' ' :: m.2.printPretty (level + 1)) := by
  cases members with
  | nil => rfl
  | cons first rest =>
      rw [printPretty, printPrettyMembers_eq, lineBreak_succ, List.map_cons, block_cons,
        List.flatMap_map]
      simp [lineBreak]

/-- Documents are laid out in blocks, by induction on the value. -/
theorem printPretty_eq_layout (value : Json) (level : Nat)
    : value.printPretty level
      = value.layout JsonNumber.print (List.replicate (2 * level) ' ') := by
  have deeper (level : Nat)
      : List.replicate (2 * level) ' ' ++ [' ', ' '] = List.replicate (2 * (level + 1)) ' ' := by
    rw [Nat.mul_add, List.replicate_add]
    rfl
  induction value using Json.induction generalizing level with
  | null => rfl
  | bool value => rfl
  | number value => rfl
  | text value => exact (scriptText_eq value).symm
  | array items ih =>
      rw [printPretty_array_eq, layout_array, deeper]
      exact congrArg _ (List.map_congr_left fun item member => ih item member _)
  | object members ih =>
      rw [printPretty_object_eq, layout_object, deeper]
      refine congrArg _ (List.map_congr_left fun m member => ?_)
      rw [scriptText_eq, ih m member]

end Json

-----------------------------------------------------------------------------------------
-- Tokens
-----------------------------------------------------------------------------------------

theorem endsNumber_lineBreak (text : List Char) : EndsNumber ('\n' :: text) := by
  intro c member
  obtain rfl := Option.some.inj member
  decide

theorem endsNumber_comma (text : List Char) : EndsNumber (',' :: text) := by
  intro c member
  obtain rfl := Option.some.inj member
  decide

/-- Indentation has no tokens. -/
def IsIndent (indent : List Char) : Prop := ∀ c ∈ indent, c = ' '

theorem IsIndent.deeper {indent : List Char} (h : IsIndent indent)
    : IsIndent (indent ++ [' ', ' ']) := by
  intro c member
  rcases List.mem_append.mp member with old | new
  · exact h c old
  · simpa using new

theorem tokens_indent {indent : List Char} (h : IsIndent indent) (text : List Char)
    : tokens ('\n' :: (indent ++ text)) = tokens text := by
  have blank : ∀ c ∈ '\n' :: indent, isJsonSpace c = true := by
    intro c member
    rcases List.mem_cons.mp member with rfl | member
    · rfl
    · rw [h c member]
      rfl
  exact tokens_space text blank

theorem tokens_partBreak {indent : List Char} (h : IsIndent indent) (text : List Char)
    : tokens (partBreak indent ++ text) = tokens text :=
  tokens_indent h.deeper text

section Blocks

variable {α : Type} {parts : List α} {text : α → List Char} {list : α → List Token}
  {indent : List Char}

/-- The lines of a block after the first have the tokens of their parts, each with a comma in
front, by induction on their number.
-/
theorem tokens_lines (blank : IsIndent indent)
    (each : ∀ part ∈ parts, ∀ rest, EndsNumber rest →
      tokens (text part ++ rest) = list part ++ tokens rest)
    {rest : List Char} (stop : EndsNumber rest)
    : EndsNumber (parts.flatMap (fun p => ',' :: partBreak indent ++ text p) ++ rest)
      ∧ tokens (parts.flatMap (fun p => ',' :: partBreak indent ++ text p) ++ rest)
        = parts.flatMap (fun p => .comma :: list p) ++ tokens rest := by
  induction parts with
  | nil => exact ⟨stop, rfl⟩
  | cons part parts ih =>
      obtain ⟨eachFirst, eachRest⟩ := List.forall_mem_cons.mp each
      obtain ⟨further, known⟩ := ih eachRest
      refine ⟨endsNumber_comma _, ?_⟩
      rw [List.flatMap_cons, List.flatMap_cons, List.append_assoc, List.append_assoc,
        List.cons_append, tokens_punctuation ',' rfl, tokens_partBreak blank,
        eachFirst _ further, known]
      simp

/-- A block has the tokens of its parts with commas between them. -/
theorem tokens_block {opening closing : Char} {first last : Token}
    (start : punctuation? opening = some first) (finish : punctuation? closing = some last)
    (blank : IsIndent indent)
    (each : ∀ part ∈ parts, ∀ rest, EndsNumber rest →
      tokens (text part ++ rest) = list part ++ tokens rest)
    (rest : List Char)
    : tokens (block opening closing indent (parts.map text) ++ rest)
      = first :: ([Token.comma].intercalate (parts.map list) ++ last :: tokens rest) := by
  cases parts with
  | nil =>
      rw [List.map_nil, List.map_nil, List.intercalate_nil]
      exact (tokens_punctuation opening start _).trans
        (congrArg _ (tokens_punctuation closing finish rest))
  | cons part parts =>
      obtain ⟨eachFirst, eachRest⟩ := List.forall_mem_cons.mp each
      have ending : tokens ('\n' :: (indent ++ closing :: rest)) = last :: tokens rest := by
        rw [tokens_indent blank, tokens_punctuation closing finish]
      obtain ⟨stop, lines⟩ :=
        tokens_lines blank eachRest (endsNumber_lineBreak (indent ++ closing :: rest))
      have whole
          : block opening closing indent ((part :: parts).map text) ++ rest
            = opening :: (partBreak indent ++ (text part
              ++ (parts.flatMap (fun p => ',' :: partBreak indent ++ text p)
                ++ '\n' :: (indent ++ closing :: rest)))) := by
        rw [List.map_cons, block_cons, List.flatMap_map]
        simp
      rw [whole, tokens_punctuation opening start, tokens_partBreak blank, eachFirst _ stop,
        lines, ending, List.map_cons, intercalate_cons_eq, List.flatMap_map, List.append_assoc]
      rfl

-----------------------------------------------------------------------------------------
-- Equal texts
-----------------------------------------------------------------------------------------

/-- A text that may follow a part of a block. -/
def EndsPart (text : List Char) : Prop := ∀ c ∈ text.head?, c = ',' ∨ c = '\n'

/-- A text that no part of a block could end inside of. -/
def Unbroken (text : List Char) : Prop := ∀ c ∈ text, c ≠ ',' ∧ c ≠ '\n'

/-- Of two unbroken texts in front of what may follow them none goes on in the other, by
induction on the first.
-/
theorem Unbroken.append_inj {left right rest rest' : List Char} (hl : Unbroken left)
    (hr : Unbroken right) (stop : EndsPart rest) (stop' : EndsPart rest')
    (same : left ++ rest = right ++ rest')
    : left = right ∧ rest = rest' := by
  have outside {c : Char} {text more : List Char} (plain : Unbroken (c :: text))
      (stop : EndsPart (c :: more)) : False := by
    obtain ⟨comma, line⟩ := plain c List.mem_cons_self
    exact (stop c rfl).elim comma line
  induction left generalizing right with
  | nil =>
      cases right with
      | nil => exact ⟨rfl, same⟩
      | cons c right =>
          subst same
          exact (outside hr stop).elim
  | cons c left ih =>
      cases right with
      | nil =>
          subst same
          exact (outside hl stop').elim
      | cons d right =>
          obtain ⟨rfl, tails⟩ := List.cons.inj same
          obtain ⟨rfl, rest⟩ := ih (fun c member => hl c (List.mem_cons_of_mem _ member))
            (fun c member => hr c (List.mem_cons_of_mem _ member)) tails
          exact ⟨rfl, rest⟩

variable {text' : α → List Char} {Same : α → Prop}

theorem endsPart_lines {rest : List Char} (stop : EndsPart rest)
    : EndsPart (parts.flatMap (fun p => ',' :: partBreak indent ++ text p) ++ rest) := by
  cases parts with
  | nil => exact stop
  | cons part parts =>
      intro c member
      exact .inl (Option.some.inj member).symm

/-- Lines that are the same text have the same parts, by induction on their number. -/
theorem lines_inj
    (each : ∀ part ∈ parts, ∀ rest rest', EndsPart rest → EndsPart rest' →
      text part ++ rest = text' part ++ rest' → Same part ∧ rest = rest')
    {rest rest' : List Char} (stop : EndsPart rest) (stop' : EndsPart rest')
    (same : parts.flatMap (fun p => ',' :: partBreak indent ++ text p) ++ rest
      = parts.flatMap (fun p => ',' :: partBreak indent ++ text' p) ++ rest')
    : (∀ part ∈ parts, Same part) ∧ rest = rest' := by
  induction parts with
  | nil => exact ⟨List.forall_mem_nil _, same⟩
  | cons part parts ih =>
      obtain ⟨eachFirst, eachRest⟩ := List.forall_mem_cons.mp each
      simp only [List.flatMap_cons, List.append_assoc, List.cons_append, List.cons.injEq,
        true_and, List.append_cancel_left_eq] at same
      obtain ⟨first, same⟩ :=
        eachFirst _ _ (endsPart_lines stop) (endsPart_lines stop') same
      obtain ⟨others, same⟩ := ih eachRest same
      exact ⟨List.forall_mem_cons.mpr ⟨first, others⟩, same⟩

/-- Blocks that are the same text have the same parts. -/
theorem block_inj {opening closing : Char}
    (each : ∀ part ∈ parts, ∀ rest rest', EndsPart rest → EndsPart rest' →
      text part ++ rest = text' part ++ rest' → Same part ∧ rest = rest')
    {rest rest' : List Char}
    (same : block opening closing indent (parts.map text) ++ rest
      = block opening closing indent (parts.map text') ++ rest')
    : (∀ part ∈ parts, Same part) ∧ rest = rest' := by
  cases parts with
  | nil => exact ⟨List.forall_mem_nil _, List.append_cancel_left same⟩
  | cons part parts =>
      obtain ⟨eachFirst, eachRest⟩ := List.forall_mem_cons.mp each
      have stop (rest : List Char) : EndsPart ('\n' :: (indent ++ closing :: rest)) :=
        fun c member => .inr (Option.some.inj member).symm
      simp only [List.map_cons, block_cons, List.flatMap_map, List.append_assoc,
        List.cons_append, List.cons.injEq, true_and, List.append_cancel_left_eq,
        List.nil_append] at same
      obtain ⟨first, same⟩ :=
        eachFirst _ _ (endsPart_lines (stop rest)) (endsPart_lines (stop rest')) same
      obtain ⟨others, same⟩ := lines_inj eachRest (stop rest) (stop rest') same
      simp only [List.cons.injEq, true_and, List.append_cancel_left_eq] at same
      exact ⟨List.forall_mem_cons.mpr ⟨first, others⟩, same⟩

end Blocks

namespace Json

variable {write write' : JsonNumber → List Char}

/-- Layouts that are the same text have the same numbers, by induction on the value. -/
theorem layout_inj (plain : ∀ x, Unbroken (write x)) (plain' : ∀ x, Unbroken (write' x))
    {value : Json} {indent rest rest' : List Char} (stop : EndsPart rest)
    (stop' : EndsPart rest')
    (same : value.layout write indent ++ rest = value.layout write' indent ++ rest')
    : (∀ x ∈ value.numbers, write x = write' x) ∧ rest = rest' := by
  induction value using Json.induction generalizing indent rest rest' with
  | null => exact ⟨List.forall_mem_nil _, List.append_cancel_left same⟩
  | bool value => exact ⟨List.forall_mem_nil _, List.append_cancel_left same⟩
  | number value =>
      obtain ⟨first, rest⟩ := (plain value).append_inj (plain' value) stop stop' same
      exact ⟨List.forall_mem_singleton.mpr first, rest⟩
  | text value => exact ⟨List.forall_mem_nil _, List.append_cancel_left same⟩
  | array items ih =>
      rw [layout_array, layout_array] at same
      rw [numbers_array, List.forall_mem_flatMap]
      exact block_inj (fun item member _ _ stop stop' same => ih item member stop stop' same) same
  | object members ih =>
      rw [layout_object, layout_object] at same
      rw [numbers_object, List.forall_mem_flatMap]
      refine block_inj (fun m member rest rest' stop stop' same => ?_) same
      simp only [List.append_assoc, List.cons_append, List.append_cancel_left_eq,
        List.cons.injEq, true_and] at same
      exact ih m member stop stop' same

/-- Layouts with the same numbers are the same text, by induction on the value. -/
theorem layout_congr {value : Json} {indent : List Char}
    (same : ∀ x ∈ value.numbers, write x = write' x)
    : value.layout write indent = value.layout write' indent := by
  induction value using Json.induction generalizing indent with
  | null => rfl
  | bool value => rfl
  | number value => exact same value List.mem_cons_self
  | text value => rfl
  | array items ih =>
      rw [numbers_array, List.forall_mem_flatMap] at same
      rw [layout_array, layout_array]
      exact congrArg _ (List.map_congr_left fun item member => ih item member (same item member))
  | object members ih =>
      rw [numbers_object, List.forall_mem_flatMap] at same
      rw [layout_object, layout_object]
      refine congrArg _ (List.map_congr_left fun m member => ?_)
      rw [ih m member (same m member)]

/-- Two layouts of a value are the same text exactly when they write its numbers alike. -/
theorem layout_eq_iff (plain : ∀ x, Unbroken (write x)) (plain' : ∀ x, Unbroken (write' x))
    {value : Json} {indent : List Char}
    : value.layout write indent = value.layout write' indent
      ↔ ∀ x ∈ value.numbers, write x = write' x := by
  have stop : EndsPart [] := nofun
  refine ⟨fun same => ?_, layout_congr⟩
  exact (layout_inj plain plain' stop stop (congrArg (· ++ []) same)).1

end Json

end PerfLedger
