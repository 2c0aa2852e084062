import PerfLedger.Proofs.Artifact.Turning
import PerfLedger.Proofs.Artifact.Wrappers

/-! Texts that present the same document. What is decoded depends on the tree of a text and not
on how it is written down, and of the tree only on what the fields are read as.
-/

namespace PerfLedger

-----------------------------------------------------------------------------------------
-- Ends of documents
-----------------------------------------------------------------------------------------

/-- The space of JSON is blank. -/
theorem IsSpace.isBlank {space : List Char} (h : IsSpace space) : IsBlank space := by
  intro c member
  have space := h c member
  simp only [isJsonSpace, Bool.or_eq_true, beq_iff_eq] at space
  rcases space with ((rfl | rfl) | rfl) | rfl <;> rfl

theorem punctuation?_eq_some {c : Char} {token : Token} (known : punctuation? c = some token)
    : (c = '{' ∧ token = .beginObject) ∨ (c = '}' ∧ token = .endObject)
      ∨ (c = '[' ∧ token = .beginArray) ∨ (c = ']' ∧ token = .endArray)
      ∨ (c = ':' ∧ token = .colon) ∨ (c = ',' ∧ token = .comma) := by
  obtain ⟨before, after, parts, _⟩ := List.lookup_eq_some_iff.mp known
  have member : (c, token) ∈ before ++ (c, token) :: after := by simp
  rw [← parts] at member
  simpa using member

/-- A character that stands alone is the only word of its token. -/
theorem Lexeme.eq_of_punctuation {token : Token} {word : List Char} (h : Lexeme token word)
    {c : Char} (known : punctuation? c = some token)
    : word = [c] := by
  have shape := punctuation?_eq_some known
  cases h with
  | punctuation known' =>
      have shape' := punctuation?_eq_some known'
      grind
  | @number _ value =>
      have number := numberValue_isNumber value
      rcases shape with ⟨-, same⟩ | ⟨-, same⟩ | ⟨-, same⟩ | ⟨-, same⟩ | ⟨-, same⟩ | ⟨-, same⟩
      all_goals
        rw [same] at number
        contradiction
  | _ => simp at shape

theorem Lexes.exists_first {token : Token} {found : List Token} {text : List Char}
    (h : Lexes (token :: found) text)
    : ∃ word rest, text = word ++ rest ∧ Lexeme token word := by
  cases h with
  | last lexeme => exact ⟨text, [], (List.append_nil _).symm, lexeme⟩
  | next lexeme => exact ⟨_, _, rfl, lexeme⟩

theorem Lexes.exists_last {found : List Token} {text : List Char} (h : Lexes found text)
    : ∀ token ∈ found.getLast?, ∃ front word, text = front ++ word ∧ Lexeme token word := by
  induction h with
  | last lexeme =>
      intro token last
      obtain rfl := Option.some.inj last
      exact ⟨[], _, rfl, lexeme⟩
  | @next _ tokens word space text _ _ _ rest ih =>
      intro token last
      rw [List.getLast?_cons_of_ne_nil rest.ne_nil.1] at last
      obtain ⟨front, final, rfl, lexeme⟩ := ih token last
      exact ⟨word ++ (space ++ front), final, by simp, lexeme⟩

/-- A tree of a container. -/
def Tree.IsContainer : Tree → Prop
  | array .. => True
  | object .. => True
  | _ => False

/-- The text of a container stands between brackets, which belong to no script. -/
theorem Tree.Document.apart {tree : Tree} {data : List Char} (h : tree.Document data)
    (container : tree.IsContainer)
    : Artifact.Apart data := by
  obtain ⟨opening, closing, first, last, inside, shape, opens, closes, visible, visible'⟩
      : ∃ opening closing first last inside, tree.tokenList = first :: (inside ++ [last])
        ∧ punctuation? opening = some first ∧ punctuation? closing = some last
        ∧ (isBlank opening = false ∧ opening ≠ 'w')
        ∧ (isBlank closing = false ∧ closing ≠ ';') := by
    cases tree with
    | array => exact ⟨'[', ']', _, _, _, rfl, rfl, rfl, by decide, by decide⟩
    | object => exact ⟨'{', '}', _, _, _, rfl, rfl, rfl, by decide, by decide⟩
    | _ => exact container.elim
  have lexes := h.lexes
  rw [shape] at lexes
  obtain ⟨word, rest, start, lexeme⟩ := lexes.exists_first
  have final : last ∈ (first :: (inside ++ [last])).getLast? := by
    rw [← List.cons_append, List.getLast?_concat]
    rfl
  obtain ⟨front, word', finish, lexeme'⟩ := lexes.exists_last last final
  rw [lexeme.eq_of_punctuation opens] at start
  rw [lexeme'.eq_of_punctuation closes] at finish
  refine ⟨by simp [start], ?_, ?_⟩
  · intro c front
    rw [start] at front
    obtain rfl := Option.some.inj front
    exact visible
  · intro c last
    rw [finish, List.getLast?_concat] at last
    obtain rfl := Option.some.inj last
    exact visible'

namespace Rearranged

variable {fields : List String} {value : String → Tree → Tree → Prop} {tree tree' : Tree}

/-- Only containers are rearranged. -/
theorem isContainer (h : Rearranged fields value tree tree')
    : tree.IsContainer ∧ tree'.IsContainer := by
  cases h <;> exact ⟨trivial, trivial⟩

theorem skippedFault? (h : Rearranged fields value tree tree') : tree.skippedFault? = none := by
  cases h <;> rfl

end Rearranged

namespace Ledger

/-- A text presents a tree when it is a script around a text of that tree. -/
def Presents (text : String) (tree : Tree) : Prop :=
  ∃ data, Artifact.Frames data text.toList ∧ tree.Document data

/-- A text that presents the tree of a container is decoded from that tree. -/
theorem Presents.decode_eq {text : String} {tree : Tree} (h : Presents text tree)
    (container : tree.IsContainer)
    : decode text
      = (orUnreadable ((LedgerDraft.shape maxDepth).read tree) >>= LedgerDraft.check) := by
  obtain ⟨data, framed, document⟩ := h
  have payload := framed.payload_eq (document.apart container)
  unfold decode
  rw [payload]
  refine (bind_eq_of_ok rfl).trans ?_
  rw [readDocument, document.parseText_eq]
  cases (LedgerDraft.shape maxDepth).read tree <;> rfl

/-- What is parsed without a fault is presented by a script around it. -/
theorem presents_of_frames {text : String} {data : List Char} {tree : Tree}
    (framed : Artifact.Frames data text.toList) (parsed : parseText data = ⟨tree, false⟩)
    (clear : tree.skippedFault? = none)
    : Presents text tree := by
  obtain ⟨before, inside, after, rfl, blank, document, blank'⟩ :=
    Tree.fills_of_parseText parsed clear
  exact ⟨inside, framed.inner blank.isBlank blank'.isBlank, document⟩

/-- The tokens of a tree are presented as that tree, when they are built into it again. -/
theorem presents_of_tokens {text : String} {data : List Char} {tree : Tree}
    (payload : Artifact.payload text.toList = .ok data) (found : tokens data = tree.tokenList)
    (built : buildValue [] tree.tokenList = ⟨tree, false⟩) (clear : tree.skippedFault? = none)
    : Presents text tree :=
  presents_of_frames (Artifact.frames_of_payload payload) (by rw [parseText, found, built]) clear

/-- A printed value presents its tree. -/
theorem presents_pretty {value : Json} (readable : value.Readable)
    : Presents value.pretty value.tree := by
  have printed : value.pretty.toList = value.printPretty 0 := String.toList_ofList
  refine presents_of_frames (Artifact.frames_self _) ?_ value.whole_tree.skippedFault?
  rw [printed]
  exact Json.parseText_printPretty readable

/-- A written artifact presents the tree of its ledger. -/
theorem Valid.presents_encode {l : Ledger} (h : l.Valid) : Presents l.encode l.toJson.tree :=
  presents_of_frames (Artifact.frames_of_payload (payload_encode l))
    (Json.parseText_printPretty h.readable) l.toJson.whole_tree.skippedFault?

/-- A text that is decoded presents a tree, which is an arrangement of itself. -/
theorem exists_presents {text : String} {l : Ledger} (accepted : decode text = .ok l)
    : ∃ tree, Presents text tree ∧ LedgerDraft.Rearranges tree tree := by
  obtain ⟨data, payload, accepted⟩ := bind_eq_ok.mp accepted
  obtain ⟨draft, read, -⟩ := bind_eq_ok.mp accepted
  obtain ⟨read, finished⟩ := readDocument_ok (orUnreadable_ok read)
  have arranged : LedgerDraft.Rearranges (parseText data).tree (parseText data).tree :=
    RecordShape.rearranged_self (LedgerDraft.relates maxDepth) read
  have framed := Artifact.frames_of_payload (orUnreadable_ok payload)
  refine ⟨(parseText data).tree, presents_of_frames framed ?_ ?_, arranged⟩
  · rw [← finished]
  · exact arranged.skippedFault?

/-- A text that is decoded presents a document, and the same ledger is decoded from every text
that presents it in any arrangement: with other space between the tokens, with the members of
records and the tools in another order, and with other members of unknown names in the records.
-/
theorem decode_rearranged (text : String) (l : Ledger) (accepted : decode text = .ok l)
    : (∃ tree, Presents text tree ∧ LedgerDraft.Rearranges tree tree)
      ∧ ∀ tree tree' text', Presents text tree → LedgerDraft.Rearranges tree tree' →
          Presents text' tree' →
          decode text' = .ok l ∧ encode <$> decode text' = encode <$> decode text := by
  refine ⟨exists_presents accepted, fun tree tree' text' presents related presents' => ?_⟩
  have same : decode text' = .ok l := by
    rw [presents.decode_eq related.isContainer.1] at accepted
    obtain ⟨draft, read, checked⟩ := bind_eq_ok.mp accepted
    have whole : tree'.Whole := presents'.choose_spec.2.whole
    have read' := RecordShape.read_rearranged (LedgerDraft.commutes maxDepth)
      (LedgerDraft.respects maxDepth) related whole (orUnreadable_ok read)
    rw [presents'.decode_eq related.isContainer.2, read']
    exact checked
  exact ⟨same, by rw [same, accepted]⟩

/-- A ledger with two entries of which nothing is left out is decoded from its artifact and from a
document without a script, in which all of its objects are turned around.
-/
theorem decode_rearranged_turned
    : let l := annotated [1, 2] (.zero false) rfl
      let document := (LedgerDraft.turned l).pretty
      decode l.encode = .ok l
      ∧ decode document = .ok l
      ∧ encode <$> decode document = encode <$> decode l.encode := by
  intro l document
  have valid : l.Valid := valid_run _ _
  have accepted : decode l.encode = .ok l := valid.decode_encode
  have presents := presents_pretty (LedgerDraft.readable_turned valid.readable)
  exact ⟨accepted, (decode_rearranged _ l accepted).2 _ _ _ valid.presents_encode
    (LedgerDraft.rearranges_turned l) presents⟩

/-- A member that no reader knows still has to have a name: a document is refused when the name
of a member is only a surrogate.
-/
theorem decode_unnamed_member
    : ∃ members,
        Presents "\x7b\"lastUpdate\":0,\"repoUrl\":\"r\",\"entries\":\x7b\x7d\x7d"
          (.object members .closed)
        ∧ decode "\x7b\"lastUpdate\":0,\"repoUrl\":\"r\",\"entries\":\x7b\x7d\x7d" = .ok (new "r")
        ∧ Presents
          "\x7b\"lastUpdate\":0,\"repoUrl\":\"r\",\"entries\":\x7b\x7d,\"\\ud800\":1\x7d"
          (.object (members ++ [(none, .number (.int 1))]) .closed)
        ∧ decode "\x7b\"lastUpdate\":0,\"repoUrl\":\"r\",\"entries\":\x7b\x7d,\"\\ud800\":1\x7d"
          = .error (.unreadable (.json .malformed)) := by
  have plain
      : Presents "\x7b\"lastUpdate\":0,\"repoUrl\":\"r\",\"entries\":\x7b\x7d\x7d"
          (.object [(some "lastUpdate", .number (.int 0)), (some "repoUrl", .text "r"),
            (some "entries", .object [] .closed)] .closed) :=
    presents_of_tokens rfl (by decide +kernel) rfl rfl
  have other
      : Presents
          "\x7b\"lastUpdate\":0,\"repoUrl\":\"r\",\"entries\":\x7b\x7d,\"\\ud800\":1\x7d"
          (.object [(some "lastUpdate", .number (.int 0)), (some "repoUrl", .text "r"),
            (some "entries", .object [] .closed), (none, .number (.int 1))] .closed) :=
    presents_of_tokens rfl (by decide +kernel) rfl rfl
  exact ⟨_, plain, plain.decode_eq trivial, other, other.decode_eq trivial⟩

end Ledger

end PerfLedger
