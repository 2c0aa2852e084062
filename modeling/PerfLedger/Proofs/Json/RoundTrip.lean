import PerfLedger.Json.Reading
import PerfLedger.Proofs.Json.Layout

/-! A printed value is parsed to the tree of that value. Tokens stand between the two: the
printer writes the tokens of a value, and the tree builder turns them into its tree.
-/

namespace PerfLedger

namespace Json

-----------------------------------------------------------------------------------------
-- Values
-----------------------------------------------------------------------------------------

mutual

/-- The tokens that a value is printed in. -/
def tokenList : Json → List Token
  | null => [.null]
  | bool value => [.bool value]
  | number value => [.number value]
  | text value => [.text value]
  | array items => .beginArray :: (itemTokens items ++ [.endArray])
  | object members => .beginObject :: (memberTokens members ++ [.endObject])

/-- The tokens of the items of an array. -/
def itemTokens : List Json → List Token
  | [] => []
  | [item] => item.tokenList
  | item :: rest => item.tokenList ++ .comma :: itemTokens rest

/-- The tokens of the members of an object. -/
def memberTokens : List (String × Json) → List Token
  | [] => []
  | [(name, value)] => .text name :: .colon :: value.tokenList
  | (name, value) :: rest =>
      .text name :: .colon :: (value.tokenList ++ .comma :: memberTokens rest)

end

mutual

/-- The syntax tree of a value. -/
def tree : Json → Tree
  | null => .null
  | bool value => .bool value
  | number value => .number value
  | text value => .text value
  | array items => .array (itemTrees items) .closed
  | object members => .object (memberTrees members) .closed

/-- The syntax trees of the items of an array. -/
def itemTrees : List Json → List Tree
  | [] => []
  | item :: rest => item.tree :: itemTrees rest

/-- The syntax trees of the members of an object. -/
def memberTrees : List (String × Json) → List (Option String × Tree)
  | [] => []
  | (name, value) :: rest => (some name, value.tree) :: memberTrees rest

end

theorem itemTrees_eq_map (items : List Json) : itemTrees items = items.map tree := by
  induction items with
  | nil => rfl
  | cons item rest ih => rw [itemTrees, ih, List.map_cons]

theorem memberTrees_eq_map (members : List (String × Json))
    : memberTrees members = members.map fun m => (some m.1, m.2.tree) := by
  induction members with
  | nil => rfl
  | cons member rest ih => rw [memberTrees, ih, List.map_cons]

/-- A value whose numbers can all be written down and read. -/
inductive Readable : Json → Prop where
  | null : Readable null
  | bool (value : Bool) : Readable (bool value)
  | number {value : JsonNumber} (readable : value.Readable) : Readable (number value)
  | text (value : String) : Readable (text value)
  | array {items : List Json} (all : ∀ item ∈ items, Readable item) : Readable (array items)
  | object {members : List (String × Json)} (all : ∀ member ∈ members, Readable member.2)
      : Readable (object members)

/-- The numbers of a readable value can be written down and read. -/
theorem Readable.numbers {value : Json} (h : value.Readable)
    : ∀ x ∈ value.numbers, x.Readable := by
  induction h with
  | null => exact List.forall_mem_nil _
  | bool => exact List.forall_mem_nil _
  | number readable => exact List.forall_mem_singleton.mpr readable
  | text => exact List.forall_mem_nil _
  | array _ ih => simpa only [numbers_array, List.forall_mem_flatMap] using ih
  | object _ ih => simpa only [numbers_object, List.forall_mem_flatMap] using ih

-----------------------------------------------------------------------------------------
-- Tokens of layouts
-----------------------------------------------------------------------------------------

theorem itemTokens_eq (items : List Json)
    : itemTokens items = [Token.comma].intercalate (items.map tokenList) := by
  induction items with
  | nil => rfl
  | cons item items ih =>
      cases items with
      | nil => simp [itemTokens]
      | cons next items =>
          rw [itemTokens, ih, List.map_cons, List.map_cons, List.map_cons,
            List.intercalate_cons_cons]
          · simp
          · nofun

theorem memberTokens_eq (members : List (String × Json))
    : memberTokens members
      = [Token.comma].intercalate
          (members.map fun m => .text m.1 :: .colon :: m.2.tokenList) := by
  induction members with
  | nil => rfl
  | cons member members ih =>
      cases members with
      | nil => simp [memberTokens]
      | cons next members =>
          rw [memberTokens, ih, List.map_cons, List.map_cons, List.map_cons,
            List.intercalate_cons_cons]
          · simp
          · nofun

/-- A layout of a value has the tokens of that value if each number is one word, by induction on
the value.
-/
theorem tokens_layout {write : JsonNumber → List Char} {value : Json}
    (reads : ∀ x ∈ value.numbers, Lexeme (.number x) (write x))
    {indent : List Char} (blank : IsIndent indent) {rest : List Char} (stop : EndsNumber rest)
    : tokens (value.layout write indent ++ rest) = value.tokenList ++ tokens rest := by
  induction value using Json.induction generalizing indent rest with
  | null => exact Lexeme.null.tokens_eq fun _ => stop
  | bool value => exact (Lexeme.bool value).tokens_eq fun _ => stop
  | number value => exact (List.forall_mem_singleton.mp reads).tokens_eq fun _ => stop
  | text value =>
      have quoted := (lexeme_quoted value).tokens_eq fun _ => stop
      rw [← scriptText_eq] at quoted
      exact quoted
  | array items ih =>
      rw [numbers_array, List.forall_mem_flatMap] at reads
      rw [layout_array, tokens_block rfl rfl blank fun item member rest stop =>
        ih item member (reads item member) blank.deeper stop, tokenList, itemTokens_eq]
      simp
  | object members ih =>
      rw [numbers_object, List.forall_mem_flatMap] at reads
      have each (m : String × Json) (member : m ∈ members) (rest : List Char)
          (stop : EndsNumber rest)
          : tokens (scriptText m.1 ++ ':' :: ' ' :: m.2.layout write (indent ++ [' ', ' '])
              ++ rest)
            = .text m.1 :: .colon :: m.2.tokenList ++ tokens rest := by
        have space (text : List Char) : tokens (' ' :: text) = tokens text :=
          tokens_space text (List.forall_mem_singleton.mpr rfl)
        rw [List.append_assoc, scriptText_eq, (lexeme_quoted m.1).tokens_eq False.elim,
          List.cons_append, List.cons_append, tokens_punctuation ':' rfl, space,
          ih m member (reads m member) blank.deeper stop]
        rfl
      rw [layout_object, tokens_block rfl rfl blank each, tokenList, memberTokens_eq]
      simp

-----------------------------------------------------------------------------------------
-- Trees of tokens
-----------------------------------------------------------------------------------------

/-- Nothing is missing from the tree of a value. -/
theorem whole_tree (value : Json) : value.tree.Whole := by
  induction value using Json.induction with
  | null => exact .null
  | bool value => exact .bool value
  | number value => exact .number value
  | text value => exact .text value
  | array items ih =>
      rw [tree, itemTrees_eq_map]
      exact .array (List.forall_mem_map.mpr ih)
  | object members ih =>
      rw [tree, memberTrees_eq_map]
      exact .object (List.forall_mem_map.mpr ih)

/-- A value is printed in the tokens of its tree. -/
theorem tokenList_tree (value : Json) : value.tree.tokenList = value.tokenList := by
  induction value using Json.induction with
  | array items ih =>
      have each : (itemTrees items).map Tree.tokenList = items.map tokenList := by
        rw [itemTrees_eq_map, List.map_map]
        exact List.map_congr_left ih
      rw [tree, Tree.tokenList_array, tokenList, itemTokens_eq, each]
  | object members ih =>
      have each
          : (memberTrees members).map Tree.memberTokens
            = members.map fun m => .text m.1 :: .colon :: m.2.tokenList := by
        rw [memberTrees_eq_map, List.map_map]
        refine List.map_congr_left fun m member => ?_
        rw [Function.comp_apply, Tree.memberTokens, ih m member]
        rfl
      rw [tree, Tree.tokenList_object, tokenList, memberTokens_eq, each]
  | _ => rfl

/-- A layout of a value is parsed to its tree, and nothing is left over. -/
theorem parseText_layout {write : JsonNumber → List Char} {value : Json}
    (reads : ∀ x ∈ value.numbers, Lexeme (.number x) (write x))
    : parseText (value.layout write []) = ⟨value.tree, false⟩ := by
  have printed := tokens_layout reads (List.forall_mem_nil _) endsNumber_nil
  have built := value.whole_tree.buildValue_eq [] []
  rw [List.append_nil] at printed built
  have nothing : tokens [] = [] := rfl
  rw [parseText, printed, nothing, List.append_nil, ← tokenList_tree, built, buildAfter]
  rfl

/-- A printed value is parsed to its tree, and nothing is left over. -/
theorem parseText_printPretty {value : Json} (readable : value.Readable)
    : parseText (value.printPretty 0) = ⟨value.tree, false⟩ := by
  rw [printPretty_eq_layout]
  exact parseText_layout fun x member => (readable.numbers x member).lexeme

end Json

end PerfLedger
