import Mathlib.Data.List.Basic
import PerfLedger.Json.Tree
import PerfLedger.Proofs.Json.Lexemes

/-! The syntax of JSON: the tokens of a whole tree. The tree builder reads these tokens as that
tree, and when a tree is closed on the outside, the text had its tokens and no others.
-/

namespace PerfLedger

-----------------------------------------------------------------------------------------
-- Parts with separators
-----------------------------------------------------------------------------------------

theorem intercalate_cons_eq {α : Type} (separator first : List α) (rest : List (List α))
    : separator.intercalate (first :: rest) = first ++ rest.flatMap (separator ++ ·) := by
  induction rest generalizing first with
  | nil => simp
  | cons next rest ih =>
      rw [List.intercalate_cons_cons, ih, List.flatMap_cons, List.append_assoc, List.append_assoc]

theorem intercalate_concat {α : Type} (separator : List α) (parts : List (List α))
    (last : List α)
    : separator.intercalate (parts ++ [last]) = parts.flatMap (· ++ separator) ++ last := by
  induction parts with
  | nil => simp
  | cons first parts ih =>
      rw [List.cons_append, List.flatMap_cons, List.append_assoc, ← ih]
      cases parts <;> simp

theorem forall_mem_intercalate {α : Type} {P : α → Prop} {separator : List α}
    {parts : List (List α)} (between : ∀ x ∈ separator, P x)
    (each : ∀ part ∈ parts, ∀ x ∈ part, P x)
    : ∀ x ∈ separator.intercalate parts, P x := by
  cases parts with
  | nil => simp
  | cons first rest =>
      obtain ⟨start, others⟩ := List.forall_mem_cons.mp each
      rw [intercalate_cons_eq, List.forall_mem_append, List.forall_mem_flatMap]
      exact ⟨start, fun part member =>
        List.forall_mem_append.mpr ⟨between, others part member⟩⟩

namespace Tree

-----------------------------------------------------------------------------------------
-- Whole trees
-----------------------------------------------------------------------------------------

/-- A tree that nothing is missing from. -/
inductive Whole : Tree → Prop where
  | null : Whole null
  | bool (value : Bool) : Whole (bool value)
  | number (value : JsonNumber) : Whole (number value)
  | text (value : String) : Whole (text value)
  | unpairedText : Whole unpairedText
  | hugeNumber : Whole hugeNumber
  | array {items : List Tree} (all : ∀ item ∈ items, Whole item) : Whole (array items .closed)
  | object {members : List (Option String × Tree)} (all : ∀ member ∈ members, Whole member.2)
      : Whole (object members .closed)

/-- The token of a member's name. -/
def nameToken : Option String → Token
  | some name => .text name
  | none => .unpairedText

mutual

/-- The tokens of a whole tree. -/
def tokenList : Tree → List Token
  | null => [.null]
  | bool value => [.bool value]
  | number value => [.number value]
  | text value => [.text value]
  | unpairedText => [.unpairedText]
  | hugeNumber => [.hugeNumber]
  | array items _ => .beginArray :: ([.comma].intercalate (itemLists items) ++ [.endArray])
  | object members _ =>
      .beginObject :: ([.comma].intercalate (memberLists members) ++ [.endObject])
  | broken place => [.broken place]

/-- The tokens of each item of an array. -/
def itemLists : List Tree → List (List Token)
  | [] => []
  | item :: rest => item.tokenList :: itemLists rest

/-- The tokens of each member of an object. -/
def memberLists : List (Option String × Tree) → List (List Token)
  | [] => []
  | (name, value) :: rest => (nameToken name :: .colon :: value.tokenList) :: memberLists rest

end

/-- The tokens of a member. -/
def memberTokens (member : Option String × Tree) : List Token :=
  nameToken member.1 :: .colon :: member.2.tokenList

theorem tokenList_array (items : List Tree) (closing : Closing)
    : (array items closing).tokenList
      = .beginArray :: ([.comma].intercalate (items.map tokenList) ++ [.endArray]) := by
  have each : itemLists items = items.map tokenList := by
    induction items with
    | nil => rfl
    | cons item items ih => rw [itemLists, ih, List.map_cons]
  rw [tokenList, each]

theorem tokenList_object (members : List (Option String × Tree)) (closing : Closing)
    : (object members closing).tokenList
      = .beginObject :: ([.comma].intercalate (members.map memberTokens) ++ [.endObject]) := by
  have each : memberLists members = members.map memberTokens := by
    induction members with
    | nil => rfl
    | cons member members ih => rw [memberLists, ih, List.map_cons, memberTokens]
  rw [tokenList, each]

/-- A whole tree is skipped without a fault. -/
theorem Whole.skippedFault? {tree : Tree} (h : tree.Whole) : tree.skippedFault? = none := by
  cases h <;> rfl

-----------------------------------------------------------------------------------------
-- Building whole trees
-----------------------------------------------------------------------------------------

theorem buildValue_beginArray (stack : List Frame) {token : Token} (other : token ≠ .endArray)
    (rest : List Token)
    : buildValue stack (.beginArray :: token :: rest)
      = buildValue (.items [] :: stack) (token :: rest) := by
  cases token <;> first | rfl | contradiction

theorem buildValue_beginObject (stack : List Frame) (name : Option String) (rest : List Token)
    : buildValue stack (.beginObject :: nameToken name :: .colon :: rest)
      = buildValue (.members [] name :: stack) rest := by
  cases name <;> rfl

theorem buildAfter_member (outer : List Frame) (done : List (Option String × Tree))
    (name next : Option String) (value : Tree) (rest : List Token)
    : buildAfter (.members done name :: outer) value (.comma :: nameToken next :: .colon :: rest)
      = buildValue (.members ((name, value) :: done) next :: outer) rest := by
  cases next <;> rfl

theorem Whole.exists_head {tree : Tree} (h : tree.Whole)
    : ∃ token rest, tree.tokenList = token :: rest ∧ token ≠ .endArray := by
  cases h
  all_goals exact ⟨_, _, rfl, Token.noConfusion⟩

/-- After an item the others are built up to the end of their array, by induction on them. -/
theorem buildAfter_items (outer : List Frame) (done : List Tree) (item : Tree)
    {items : List Tree}
    (each : ∀ item ∈ items, ∀ stack rest,
      buildValue stack (item.tokenList ++ rest) = buildAfter stack item rest)
    (rest : List Token)
    : buildAfter (.items done :: outer) item
        ((items.map tokenList).flatMap (.comma :: ·) ++ .endArray :: rest)
      = buildAfter outer (.array (done.reverse ++ item :: items) .closed) rest := by
  induction items generalizing done item with
  | nil => simp [buildAfter]
  | cons next items ih =>
      obtain ⟨first, others⟩ := List.forall_mem_cons.mp each
      simp only [List.map_cons, List.flatMap_cons, List.append_assoc, List.cons_append]
      rw [buildAfter, first, ih _ _ others]
      simp

/-- After a member the others are built up to the end of their object, by induction on them. -/
theorem buildAfter_members (outer : List Frame) (done : List (Option String × Tree))
    (name : Option String) (value : Tree) {members : List (Option String × Tree)}
    (each : ∀ member ∈ members, ∀ stack rest,
      buildValue stack (member.2.tokenList ++ rest) = buildAfter stack member.2 rest)
    (rest : List Token)
    : buildAfter (.members done name :: outer) value
        ((members.map memberTokens).flatMap (.comma :: ·) ++ .endObject :: rest)
      = buildAfter outer (.object (done.reverse ++ (name, value) :: members) .closed) rest := by
  induction members generalizing done name value with
  | nil => simp [buildAfter]
  | cons next members ih =>
      obtain ⟨first, others⟩ := List.forall_mem_cons.mp each
      simp only [List.map_cons, List.flatMap_cons, List.append_assoc, List.cons_append,
        memberTokens]
      rw [buildAfter_member, first, ih _ _ _ others]
      simp

/-- The tokens of a whole tree are built into that tree, by induction on it. -/
theorem Whole.buildValue_eq {tree : Tree} (h : tree.Whole) (stack : List Frame)
    (rest : List Token)
    : buildValue stack (tree.tokenList ++ rest) = buildAfter stack tree rest := by
  induction h generalizing stack rest with
  | @array items all ih =>
      cases items with
      | nil => rfl
      | cons item items =>
          obtain ⟨first, others⟩ := List.forall_mem_cons.mp ih
          obtain ⟨token, more, start, other⟩ := (all item List.mem_cons_self).exists_head
          have opened
              : ∀ rest, buildValue stack (.beginArray :: (item.tokenList ++ rest))
                = buildAfter (.items [] :: stack) item rest := by
            intro rest
            rw [← first, start]
            exact buildValue_beginArray stack other _
          rw [tokenList_array, List.map_cons, intercalate_cons_eq]
          simp only [List.cons_append, List.append_assoc, List.nil_append]
          rw [opened]
          exact buildAfter_items stack [] item others rest
  | @object members all ih =>
      cases members with
      | nil => rfl
      | cons member members =>
          obtain ⟨first, others⟩ := List.forall_mem_cons.mp ih
          rw [tokenList_object, List.map_cons, intercalate_cons_eq]
          simp only [List.cons_append, List.append_assoc, List.nil_append, memberTokens]
          rw [buildValue_beginObject, first]
          exact buildAfter_members stack [] member.1 member.2 others rest
  | _ => rfl

end Tree

-----------------------------------------------------------------------------------------
-- Trees that were built
-----------------------------------------------------------------------------------------

open PerfLedger.Tree (nameToken memberTokens)

/-- The tokens of finished items, each with the comma behind it. -/
def itemsDone (items : List Tree) : List Token :=
  items.flatMap fun item => item.tokenList ++ [.comma]

/-- The tokens of finished members, each with the comma behind it. -/
def membersDone (members : List (Option String × Tree)) : List Token :=
  members.flatMap fun m => memberTokens m ++ [.comma]

theorem tokenList_items (items : List Tree) (last : Tree)
    : (Tree.array (items ++ [last]) .closed).tokenList
      = .beginArray :: (itemsDone items ++ (last.tokenList ++ [.endArray])) := by
  rw [Tree.tokenList_array, List.map_append, List.map_singleton, intercalate_concat]
  simp [itemsDone, List.flatMap_map]

theorem tokenList_members (members : List (Option String × Tree)) (name : Option String)
    (value : Tree)
    : (Tree.object (members ++ [(name, value)]) .closed).tokenList
      = .beginObject :: (membersDone members
        ++ nameToken name :: .colon :: (value.tokenList ++ [.endObject])) := by
  rw [Tree.tokenList_object, List.map_append, List.map_singleton, intercalate_concat]
  simp [membersDone, List.flatMap_map, memberTokens]

namespace Frame

/-- The finished parts of an open container are whole. -/
def Whole : Frame → Prop
  | items done => ∀ item ∈ done, item.Whole
  | members done _ => ∀ member ∈ done, member.2.Whole

/-- The tokens of an open container up to the place where it stands. -/
def tokenList : Frame → List Token
  | items done => .beginArray :: itemsDone done.reverse
  | members done name => .beginObject :: (membersDone done.reverse ++ [nameToken name, .colon])

end Frame

/-- The tokens of open containers, from the outermost to the innermost. -/
def openTokens (stack : List Frame) : List Token := stack.reverse.flatMap Frame.tokenList

theorem openTokens_cons (frame : Frame) (stack : List Frame)
    : openTokens (frame :: stack) = openTokens stack ++ frame.tokenList := by
  simp [openTokens]

/-- What was built is whole if it is closed and nothing follows, and these are its tokens. -/
def Parsed.Reads (found : List Token) (parsed : Parsed) : Prop :=
  parsed.tree.skippedFault? = none → parsed.trailing = false →
    parsed.tree.Whole ∧ parsed.tree.tokenList = found

/-- A fault leaves a tree open on the outside, by induction on the containers around it. -/
theorem skippedFault?_unwind {inner : Tree} (fault : inner.skippedFault? ≠ none)
    (stack : List Frame)
    : (unwind inner stack).skippedFault? ≠ none := by
  induction stack generalizing inner with
  | nil => exact fault
  | cons frame stack ih => cases frame <;> exact ih (Option.some_ne_none _)

theorem reads_halted (inner : Tree) (fault : inner.skippedFault? ≠ none) (stack : List Frame)
    (found : List Token)
    : (halted inner stack).Reads found :=
  fun clear => absurd clear (skippedFault?_unwind fault stack)

theorem skippedFault?_unnamed (found : Option Token)
    : (Closing.unnamed found).skippedFault? ≠ none := by
  rcases found with _ | token
  · exact Option.some_ne_none _
  · cases token <;> exact Option.some_ne_none _

/-- What is built from some tokens has just these, if it is closed and nothing follows; by
induction on the tokens, with those of the open containers in front.
-/
theorem reads_buildValue (stack : List Frame) (found : List Token)
    : (∀ frame ∈ stack, frame.Whole) →
      (buildValue stack found).Reads (openTokens stack ++ found) := by
  apply buildValue.induct
    (fun stack found => (∀ frame ∈ stack, frame.Whole) →
      (buildValue stack found).Reads (openTokens stack ++ found))
    (fun stack done found => (∀ frame ∈ stack, frame.Whole) → (∀ m ∈ done, m.2.Whole) →
      (buildMember stack done found).Reads
        (openTokens stack ++ .beginObject :: (membersDone done.reverse ++ found)))
    (fun stack value found => (∀ frame ∈ stack, frame.Whole) → value.Whole →
      (buildAfter stack value found).Reads (openTokens stack ++ (value.tokenList ++ found)))
  case case1 => exact fun stack _ => reads_halted (.broken _) (Option.some_ne_none _) stack _
  case case2 => exact fun _ _ ih outer => ih outer .null
  case case3 => exact fun _ value _ ih outer => ih outer (.bool value)
  case case4 => exact fun _ value _ ih outer => ih outer (.number value)
  case case5 => exact fun _ value _ ih outer => ih outer (.text value)
  case case6 => exact fun _ _ ih outer => ih outer .unpairedText
  case case7 => exact fun _ _ ih outer => ih outer .hugeNumber
  case case8 => exact fun _ _ ih outer => ih outer (.array (List.forall_mem_nil _))
  case case9 =>
    intro stack rest other ih outer
    have read := ih (List.forall_mem_cons.mpr ⟨List.forall_mem_nil _, outer⟩)
    rw [buildValue]
    · simpa [openTokens_cons, Frame.tokenList, itemsDone] using read
    · exact other
  case case10 => exact fun _ _ ih outer => ih outer (.object (List.forall_mem_nil _))
  case case11 =>
    intro stack rest other ih outer
    rw [buildValue]
    · exact ih outer (List.forall_mem_nil _)
    · exact other
  case case12 =>
    exact fun stack _ _ _ => reads_halted (.broken _) (Option.some_ne_none _) stack _
  case case13 =>
    intro stack head tail
    intros
    rw [buildValue]
    · exact reads_halted (.broken _) (Option.some_ne_none _) stack _
    all_goals assumption
  case case14 =>
    intro stack done name rest ih outer whole
    have read := ih (List.forall_mem_cons.mpr ⟨whole, outer⟩)
    rw [buildMember]
    simpa [openTokens_cons, Frame.tokenList, nameToken] using read
  case case15 =>
    intro stack done name rest other outer whole
    rw [buildMember]
    · exact reads_halted (.broken _) (Option.some_ne_none _) _ _
    · exact other
  case case16 =>
    intro stack done rest ih outer whole
    have read := ih (List.forall_mem_cons.mpr ⟨whole, outer⟩)
    rw [buildMember]
    simpa [openTokens_cons, Frame.tokenList, nameToken] using read
  case case17 =>
    intro stack done rest other outer whole
    rw [buildMember]
    · exact reads_halted (.broken _) (Option.some_ne_none _) _ _
    · exact other
  case case18 =>
    intro stack done rest named named' unnamed unnamed' outer whole
    rw [buildMember]
    · exact reads_halted (.object _ _) (skippedFault?_unnamed _) stack _
    all_goals assumption
  case case19 =>
    intro value rest outer whole clear finished
    have nothing : rest = [] := by simpa [buildAfter] using finished
    subst nothing
    exact ⟨whole, (List.append_nil _).symm⟩
  case case20 =>
    intro done outer value rest ih inside whole
    obtain ⟨first, others⟩ := List.forall_mem_cons.mp inside
    have read := ih (List.forall_mem_cons.mpr ⟨List.forall_mem_cons.mpr ⟨whole, first⟩, others⟩)
    rw [buildAfter]
    simpa [openTokens_cons, Frame.tokenList, itemsDone] using read
  case case21 =>
    intro done outer value rest ih inside whole
    obtain ⟨first, others⟩ := List.forall_mem_cons.mp inside
    have all : ∀ item ∈ (value :: done).reverse, item.Whole := by
      intro item member
      rcases List.mem_cons.mp (List.mem_reverse.mp member) with rfl | member
      · exact whole
      · exact first item member
    have read := ih others (.array all)
    rw [buildAfter]
    simpa [openTokens_cons, Frame.tokenList, tokenList_items] using read
  case case22 =>
    intro done outer value rest other other' inside whole
    rw [buildAfter]
    · exact reads_halted (.array _ (.cut _)) (Option.some_ne_none _) _ _
    all_goals assumption
  case case23 =>
    intro done name outer value rest ih inside whole
    obtain ⟨first, others⟩ := List.forall_mem_cons.mp inside
    have all : ∀ m ∈ (name, value) :: done, m.2.Whole :=
      List.forall_mem_cons.mpr ⟨whole, show ∀ m ∈ done, m.2.Whole from first⟩
    have read := ih others all
    rw [buildAfter]
    simpa [openTokens_cons, Frame.tokenList, membersDone, memberTokens] using read
  case case24 =>
    intro done name outer value rest ih inside whole
    obtain ⟨first, others⟩ := List.forall_mem_cons.mp inside
    have all : ∀ m ∈ ((name, value) :: done).reverse, m.2.Whole := by
      intro m member
      rcases List.mem_cons.mp (List.mem_reverse.mp member) with rfl | member
      · exact whole
      · exact first m member
    have read := ih others (.object all)
    rw [buildAfter]
    simpa [openTokens_cons, Frame.tokenList, tokenList_members] using read
  case case25 =>
    intro done name outer value rest other other' inside whole
    rw [buildAfter]
    · exact reads_halted (.object _ (.cut _)) (Option.some_ne_none _) _ _
    all_goals assumption

-----------------------------------------------------------------------------------------
-- Texts of whole trees
-----------------------------------------------------------------------------------------

namespace Tree

/-- No token of a whole tree is broken, by induction on the tree. -/
theorem Whole.isWhole_tokenList {tree : Tree} (h : tree.Whole)
    : ∀ token ∈ tree.tokenList, token.IsWhole := by
  induction h with
  | array _ ih =>
      rw [tokenList_array]
      refine List.forall_mem_cons.mpr ⟨trivial, List.forall_mem_append.mpr ⟨?_, ?_⟩⟩
      · exact forall_mem_intercalate (List.forall_mem_singleton.mpr trivial)
          (List.forall_mem_map.mpr ih)
      · exact List.forall_mem_singleton.mpr trivial
  | @object members _ ih =>
      have each : ∀ part ∈ members.map memberTokens, ∀ token ∈ part, token.IsWhole := by
        refine List.forall_mem_map.mpr fun member present => ?_
        refine List.forall_mem_cons.mpr ⟨?_, List.forall_mem_cons.mpr ⟨trivial, ih member present⟩⟩
        cases member.1 <;> trivial
      rw [tokenList_object]
      refine List.forall_mem_cons.mpr ⟨trivial, List.forall_mem_append.mpr ⟨?_, ?_⟩⟩
      · exact forall_mem_intercalate (List.forall_mem_singleton.mpr trivial) each
      · exact List.forall_mem_singleton.mpr trivial
  | _ => exact List.forall_mem_singleton.mpr trivial

/-- A text of a tree: its tokens, with any space between them. -/
structure Document (tree : Tree) (text : List Char) : Prop where
  whole : tree.Whole
  lexes : Lexes tree.tokenList text

/-- A text of a tree is parsed to that tree, and nothing is left over. -/
theorem Document.parseText_eq {tree : Tree} {text : List Char} (h : tree.Document text)
    : parseText text = ⟨tree, false⟩ := by
  have built := h.whole.buildValue_eq [] []
  rw [List.append_nil] at built
  rw [parseText, h.lexes.tokens_eq, built, buildAfter]
  rfl

/-- A text of a tree and nothing else, with any space around it. -/
def Fills (tree : Tree) (text : List Char) : Prop :=
  ∃ before inside after, text = before ++ (inside ++ after) ∧ IsSpace before
    ∧ tree.Document inside ∧ IsSpace after

theorem Fills.whole {tree : Tree} {text : List Char} (h : tree.Fills text) : tree.Whole := by
  obtain ⟨_, _, _, _, _, document, _⟩ := h
  exact document.whole

theorem Fills.tokens_eq {tree : Tree} {text : List Char} (h : tree.Fills text)
    : tokens text = tree.tokenList := by
  obtain ⟨before, inside, after, rfl, blank, document, blank'⟩ := h
  have ends : EndsNumber after := List.append_nil after ▸ endsNumber_nil.space_append blank'
  have nothing : tokens after = [] := List.append_nil after ▸ tokens_space [] blank'
  rw [tokens_space _ blank, document.lexes.tokens_append fun _ _ _ => ends, nothing,
    List.append_nil]

/-- A text that is parsed to a tree without a fault is one of that tree, in some space. -/
theorem fills_of_parseText {tree : Tree} {text : List Char}
    (parsed : parseText text = ⟨tree, false⟩) (clear : tree.skippedFault? = none)
    : tree.Fills text := by
  have reads := reads_buildValue [] (tokens text) (List.forall_mem_nil _)
  rw [← parseText, parsed] at reads
  obtain ⟨whole, found⟩ := reads clear rfl
  have found : tree.tokenList = tokens text := found
  have unbroken := found ▸ whole.isWhole_tokenList
  have nonempty : tokens text ≠ [] := by
    rw [← found]
    cases whole <;> exact List.cons_ne_nil _ _
  obtain ⟨before, inside, after, parts, blank, lexes, blank'⟩ := exists_lexes unbroken nonempty
  rw [← found] at lexes
  exact ⟨before, inside, after, parts, blank, ⟨whole, lexes⟩, blank'⟩

end Tree

end PerfLedger
