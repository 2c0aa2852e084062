import PerfLedger.Proofs.Artifact.Nesting
import PerfLedger.Proofs.Artifact.Presentations
import PerfLedger.Proofs.Artifact.RoundTrip
import PerfLedger.Proofs.Artifact.Wrappers

/-! An entry in a document of its own and in an artifact. The document is accepted exactly when the
artifact around it is, and the ledger of the artifact is the one that the entry is added to.
-/

namespace PerfLedger

-----------------------------------------------------------------------------------------
-- Texts of one value
-----------------------------------------------------------------------------------------

theorem isBlank_of_isDecimalDigit {c : Char} (digit : isDecimalDigit c = true)
    : isBlank c = false := by
  have range : 48 ≤ c.toNat ∧ c.toNat ≤ 57 := Char.isDigit_iff_toNat.mp digit
  simp [isBlank]
  omega

/-- No character of a number is blank. -/
theorem Numeral.visible {negative : Bool} {value : JsonNumber} {digits : List Char}
    (h : Numeral negative value digits)
    : ∀ c ∈ digits, isBlank c = false := by
  have plain {text : List Char} (all : AllDigits text) : ∀ c ∈ text, isBlank c = false :=
    fun c member => isBlank_of_isDecimalDigit (all c member)
  cases h with
  | parts integer fractional scaled =>
      refine List.forall_mem_append.mpr ⟨plain integer.all, List.forall_mem_append.mpr ⟨?_, ?_⟩⟩
      · cases fractional with
        | absent => exact List.forall_mem_nil _
        | digits all => exact List.forall_mem_cons.mpr ⟨rfl, plain all⟩
      · cases scaled with
        | absent => exact List.forall_mem_nil _
        | power marked signed all =>
            refine List.forall_mem_cons.mpr ⟨?_, List.forall_mem_append.mpr ⟨?_, plain all⟩⟩
            · rcases marked with rfl | rfl <;> rfl
            · cases signed with
              | absent => exact List.forall_mem_nil _
              | plus | minus => exact List.forall_mem_singleton.mpr rfl

/-- A word starts and ends with a character that is not blank. -/
theorem Lexeme.visible {token : Token} {word : List Char} (h : Lexeme token word)
    : (∀ c ∈ word.head?, isBlank c = false) ∧ ∀ c ∈ word.getLast?, isBlank c = false := by
  have ends {first last : Char} (start : word.head? = some first)
      (finish : word.getLast? = some last) (visible : isBlank first = false)
      (visible' : isBlank last = false)
      : (∀ c ∈ word.head?, isBlank c = false) ∧ ∀ c ∈ word.getLast?, isBlank c = false :=
    ⟨fun c front => Option.some.inj (start.symm.trans front) ▸ visible,
      fun c back => Option.some.inj (finish.symm.trans back) ▸ visible'⟩
  cases h with
  | punctuation known =>
      rcases punctuation?_eq_some known with
        ⟨rfl, -⟩ | ⟨rfl, -⟩ | ⟨rfl, -⟩ | ⟨rfl, -⟩ | ⟨rfl, -⟩ | ⟨rfl, -⟩
      all_goals exact ends rfl rfl rfl rfl
  | null => exact ends rfl rfl rfl rfl
  | bool value => cases value <;> exact ends rfl rfl rfl rfl
  | text | unpairedText =>
      exact ends rfl (by rw [← List.cons_append, List.getLast?_concat]) rfl rfl
  | @number negative _ digits numeral =>
      have all : ∀ c ∈ signText negative ++ digits, isBlank c = false := by
        refine List.forall_mem_append.mpr ⟨?_, numeral.visible⟩
        cases negative with
        | false => exact List.forall_mem_nil _
        | true => exact List.forall_mem_singleton.mpr rfl
      exact ⟨fun c front => all c (List.mem_of_mem_head? front),
        fun c back => all c (List.mem_of_mem_getLast? back)⟩

/-- Nothing of the words of some tokens is taken away when they are trimmed. -/
theorem Lexes.trim_eq {found : List Token} {text : List Char} (h : Lexes found text)
    : trim text = text := by
  have nonempty := h.ne_nil.1
  obtain ⟨front, word', finish, lexeme'⟩ := h.exists_last _ (List.getLast_mem_getLast? nonempty)
  obtain ⟨first, others, rfl⟩ := List.exists_cons_of_ne_nil nonempty
  obtain ⟨word, rest, start, lexeme⟩ := h.exists_first
  rw [trim, trimStart_visible, trimEnd_visible]
  · intro c back
    rw [finish, List.getLast?_append_of_ne_nil _ lexeme'.ne_nil] at back
    exact lexeme'.visible.2 c back
  · intro c front
    rw [start, List.head?_append_of_ne_nil _ lexeme.ne_nil] at front
    exact lexeme.visible.1 c front

theorem Tree.Fills.parseText_trim {tree : Tree} {text : List Char} (h : tree.Fills text)
    : parseText (trim text) = ⟨tree, false⟩ := by
  obtain ⟨before, inside, after, rfl, blank, document, blank'⟩ := h
  rw [trim_blank blank.isBlank blank'.isBlank, document.lexes.trim_eq, document.parseText_eq]

-----------------------------------------------------------------------------------------
-- Texts around an entry
-----------------------------------------------------------------------------------------

/-- The text of an artifact with one series of one entry, around the words of its repository and
its tool and the text of the entry.
-/
def Artifact.around (repoUrl tool entry : String) : String :=
  "\x7b\"lastUpdate\": 0, \"repoUrl\": " ++ repoUrl ++ ", \"entries\": \x7b" ++ tool ++ ": ["
    ++ entry ++ "]\x7d\x7d"

/-- The tree of an artifact with one series of one entry. -/
def Tree.around (repoUrl tool : String) (entry : Tree) : Tree :=
  .object
    [(some "lastUpdate", .number (.int 0)), (some "repoUrl", .text repoUrl),
      (some "entries", .object [(some tool, .array [entry] .closed)] .closed)]
    .closed

variable {repoUrl tool : String} {word key entry : String} {tree : Tree}

theorem tokens_around (repo : Lexeme (.text repoUrl) word.toList)
    (name : Lexeme (.text tool) key.toList) (fills : tree.Fills entry.toList)
    : tokens (Artifact.around word key entry).toList
      = (Tree.around repoUrl tool tree).tokenList := by
  have opening
      : tokens "\x7b\"lastUpdate\": 0, \"repoUrl\": ".toList
        = [.beginObject, .text "lastUpdate", .colon, .number (.int 0), .comma, .text "repoUrl",
          .colon] := by
    decide +kernel
  have entries
      : tokens ", \"entries\": \x7b".toList
        = [.comma, .text "entries", .colon, .beginObject] := by
    decide +kernel
  have series : tokens ": [".toList = [.colon, .beginArray] := by decide +kernel
  have closing : tokens "]\x7d\x7d".toList = [.endArray, .endObject, .endObject] := by
    decide +kernel
  have bracket : EndsNumber "]\x7d\x7d".toList := by
    intro c front
    obtain rfl := Option.some.inj front
    decide
  have parts (first second third last : String)
      : (first ++ word ++ second ++ key ++ third ++ entry ++ last).toList
        = first.toList ++ (word.toList ++ (second.toList ++ (key.toList
          ++ (third.toList ++ (entry.toList ++ last.toList))))) := by
    simp only [String.toList_append, List.append_assoc]
  unfold Artifact.around
  rw [parts, tokens_append opening (by simp [Token.IsWhole]) (by simp [Token.IsNumber]),
    tokens_append (Lexes.last repo).tokens_eq (by simp [Token.IsWhole]) (by simp [Token.IsNumber]),
    tokens_append entries (by simp [Token.IsWhole]) (by simp [Token.IsNumber]),
    tokens_append (Lexes.last name).tokens_eq (by simp [Token.IsWhole]) (by simp [Token.IsNumber]),
    tokens_append series (by simp [Token.IsWhole]) (by simp [Token.IsNumber]),
    tokens_append fills.tokens_eq fills.whole.isWhole_tokenList fun _ _ _ => bracket, closing]
  simp [Tree.around, Tree.tokenList, Tree.memberLists, Tree.itemLists, Tree.nameToken]

/-- A whole tree stays whole with an artifact around it. -/
theorem Tree.Whole.around (h : tree.Whole) (repoUrl tool : String)
    : (Tree.around repoUrl tool tree).Whole := by
  have series : (Tree.array [tree] .closed).Whole := .array (List.forall_mem_singleton.mpr h)
  refine .object (List.forall_mem_cons.mpr ⟨.number _, List.forall_mem_cons.mpr ⟨.text _, ?_⟩⟩)
  exact List.forall_mem_singleton.mpr (.object (List.forall_mem_singleton.mpr series))

theorem Ledger.presents_around (repo : Lexeme (.text repoUrl) word.toList)
    (name : Lexeme (.text tool) key.toList) (fills : tree.Fills entry.toList)
    : Presents (Artifact.around word key entry) (Tree.around repoUrl tool tree) := by
  have built := (fills.whole.around repoUrl tool).buildValue_eq [] []
  refine presents_of_frames (Artifact.frames_self _) ?_ rfl
  rw [parseText, tokens_around repo name fills]
  simpa [buildAfter] using built

-----------------------------------------------------------------------------------------
-- Ledgers of one entry
-----------------------------------------------------------------------------------------

/-- The entry in a document of one value is that of its tree. -/
theorem Entry.decode_eq_ok (fills : tree.Fills entry.toList) {e : Entry}
    : decode entry = .ok e
      ↔ ∃ draft, (EntryDraft.shape maxDepth).read tree = .ok draft ∧ draft.Yields (.ok e) := by
  have document
      : readDocument (EntryDraft.shape maxDepth).read (trim entry.toList)
        = (EntryDraft.shape maxDepth).read tree := by
    rw [readDocument, fills.parseText_trim]
    exact bind_pure _
  unfold decode
  rw [document]
  constructor
  · intro accepted
    obtain ⟨draft, read, checked⟩ := bind_eq_ok.mp accepted
    refine ⟨draft, orUnreadable_ok read, EntryDraft.check_eq_iff.mp ?_⟩
    split at checked
    next found => exact found.trans (congrArg _ (Except.ok.inj checked))
    next => contradiction
  · rintro ⟨draft, read, outcome⟩
    rw [read]
    refine bind_eq_ok.mpr ⟨draft, rfl, ?_⟩
    rw [outcome.check_eq]
    rfl

namespace LedgerDraft

/-- A single series of a single entry is read as a draft of that entry. -/
theorem readSeries_single (depth : Nat) (tool : String) (tree : Tree)
    : readSeries (depth + 1) (.object [(some tool, .array [tree] .closed)] .closed)
      = (fun draft => [(tool, [draft])]) <$> (EntryDraft.shape depth).read tree := by
  have added
      : addSeries (depth + 1) [] (some tool, .array [tree] .closed)
        = (fun draft => [(tool, [draft])]) <$> (EntryDraft.shape depth).read tree := by
    unfold addSeries Tree.readList
    cases read : (EntryDraft.shape depth).read tree <;> simp [read, readName] <;> rfl
  unfold readSeries
  simp only [List.foldlM_cons, List.foldlM_nil, added]
  cases (EntryDraft.shape depth).read tree <;> rfl

/-- An artifact around an entry is read as a draft of that entry, which is nested in three more
containers.
-/
theorem read_around (depth : Nat) (repoUrl tool : String) (tree : Tree)
    : (shape (depth + 3)).read (.around repoUrl tool tree)
      = (fun draft => ⟨0, repoUrl, [(tool, [draft])]⟩) <$> (EntryDraft.shape depth).read tree := by
  have first
      : (shape (depth + 3)).takeMember ([], (shape (depth + 3)).empty)
          (some "lastUpdate", .number (.int 0))
        = .ok (["lastUpdate"], { lastUpdate := some 0 }) :=
    rfl
  have second
      : (shape (depth + 3)).takeMember (["lastUpdate"], { lastUpdate := some 0 })
          (some "repoUrl", .text repoUrl)
        = .ok (["repoUrl", "lastUpdate"], { lastUpdate := some 0, repoUrl := some repoUrl }) :=
    rfl
  have third
      : (shape (depth + 3)).takeMember
          (["repoUrl", "lastUpdate"], { lastUpdate := some 0, repoUrl := some repoUrl })
          (some "entries", .object [(some tool, .array [tree] .closed)] .closed)
        = (fun draft => (["entries", "repoUrl", "lastUpdate"],
            { lastUpdate := some 0, repoUrl := some repoUrl, series := some [(tool, [draft])] }))
          <$> (EntryDraft.shape depth).read tree := by
    have nested : depth + 3 - 1 - 1 = depth + 1 := rfl
    simp only [RecordShape.takeMember, readName, shape, Draft.set, nested, readSeries_single]
    cases (EntryDraft.shape depth).read tree <;> rfl
  change RecordShape.readMembers (shape (depth + 3)) [_, _, _] .closed = _
  unfold RecordShape.readMembers
  rw [List.foldlM_cons, bind_eq_of_ok first, List.foldlM_cons, bind_eq_of_ok second,
    List.foldlM_cons, third]
  cases (EntryDraft.shape depth).read tree <;> rfl

variable {draft : EntryDraft} {l next : Ledger}

/-- A single draft is recorded exactly when it comes to an entry that can be added. -/
theorem checkEntries_single (index : Nat)
    : checkEntries tool index l [draft] = .ok next
      ↔ ∃ e, draft.Yields (.ok e) ∧ l.append tool e = .ok next := by
  constructor
  · intro checked
    unfold checkEntries at checked
    split at checked
    next => contradiction
    next =>
      split at checked
      next => contradiction
      next e outcome =>
        split at checked
        next => contradiction
        next added =>
          obtain rfl := Except.ok.inj checked
          exact ⟨e, EntryDraft.check_eq_iff.mp outcome, added⟩
  · rintro ⟨e, outcome, added⟩
    have own : draft.tool = tool :=
      outcome.fields.2.2.symm.trans (Ledger.append_eq_ok.mp added).1
    simp only [checkEntries, own, outcome.check_eq, added]
    exact if_neg fun other => other rfl

/-- A draft of a single entry holds a ledger exactly when the entry is one of its tool, and then it
is the new ledger that the entry is added to.
-/
theorem check_single
    : check ⟨0, repoUrl, [(tool, [draft])]⟩ = .ok l
      ↔ ∃ e, draft.Yields (.ok e) ∧ (Ledger.new repoUrl).append tool e = .ok l := by
  have run
      : check ⟨0, repoUrl, [(tool, [draft])]⟩
        = (checkEntries tool 0 (Ledger.new repoUrl) [draft]
          >>= fun l => .ok { l with lastUpdate := max l.lastUpdate 0 }) := by
    unfold check
    simp only [List.foldlM_cons, List.foldlM_nil]
    cases checkEntries tool 0 (Ledger.new repoUrl) [draft] <;> rfl
  have kept {e : Entry} {l : Ledger} (added : (Ledger.new repoUrl).append tool e = .ok l)
      : { l with lastUpdate := max l.lastUpdate 0 } = l := by
    obtain ⟨-, -, rfl⟩ := Ledger.append_eq_ok.mp added
    simp [Ledger.new]
  rw [run]
  constructor
  · intro accepted
    obtain ⟨found, checked, same⟩ := bind_eq_ok.mp accepted
    obtain ⟨e, outcome, added⟩ := (checkEntries_single 0).mp checked
    obtain rfl := (kept added).symm.trans (Except.ok.inj same)
    exact ⟨e, outcome, added⟩
  · rintro ⟨e, outcome, added⟩
    have checked := (checkEntries_single 0).mpr ⟨e, outcome, added⟩
    exact bind_eq_ok.mpr ⟨l, checked, congrArg _ (kept added)⟩

end LedgerDraft

/-- The ledger of an artifact around an entry is the new one that the entry is added to. -/
theorem Ledger.decode_around_eq_ok (repo : Lexeme (.text repoUrl) word.toList)
    (name : Lexeme (.text tool) key.toList) (fills : tree.Fills entry.toList) {l : Ledger}
    : decode (Artifact.around word key entry) = .ok l
      ↔ ∃ e, Entry.decode entry = .ok e ∧ (new repoUrl).append tool e = .ok l := by
  have nested : (LedgerDraft.shape maxDepth).read (.around repoUrl tool tree) = _ :=
    LedgerDraft.read_around 124 repoUrl tool tree
  rw [(presents_around repo name fills).decode_eq trivial, nested]
  constructor
  · intro accepted
    obtain ⟨_, found, checked⟩ := bind_eq_ok.mp accepted
    obtain ⟨draft, read, rfl⟩ := map_eq_ok.mp (orUnreadable_ok found)
    obtain ⟨e, outcome, added⟩ := LedgerDraft.check_single.mp checked
    have alone := outcome.read_eq maxDepth read
    exact ⟨e, (Entry.decode_eq_ok fills).mpr ⟨draft, alone, outcome⟩, added⟩
  · rintro ⟨e, accepted, added⟩
    obtain ⟨draft, read, outcome⟩ := (Entry.decode_eq_ok fills).mp accepted
    rw [outcome.read_eq 124 read]
    exact bind_eq_ok.mpr ⟨_, rfl, LedgerDraft.check_single.mpr ⟨e, outcome, added⟩⟩

/-- An entry that was read is read back from its document, equal by value. -/
theorem Entry.Valid.exists_decode_encode {e : Entry} (h : e.Valid)
    : ∃ back, Entry.decode e.encode = .ok back ∧ back.same e = true := by
  have valid := (Entry.Made.decode h.decode_encode).valid
  exact ⟨e.unsigned, h.decode_encode,
    (Entry.same_iff_unsigned valid h).mpr (Entry.unsigned_unsigned e)⟩

/-- An entry in a document and in an artifact around it. One is accepted exactly when the other is,
whatever the value in it is and however its texts are written; the ledger of the artifact is the
one that the entry is added to, and the entry is read back from the document that is written for
it. So any ledger that an accepted entry is added to is read back, and every entry of a decoded
ledger is accepted in a document of its own.
-/
theorem Ledger.decode_around
    : (∀ (repoUrl tool word key entry : String) (tree : Tree),
        tree.Fills entry.toList → Lexeme (.text repoUrl) word.toList →
        Lexeme (.text tool) key.toList →
        ((∃ e, Entry.decode entry = .ok e ∧ e.tool = tool)
          ↔ ∃ l, decode (Artifact.around word key entry) = .ok l)
        ∧ ∀ e, Entry.decode entry = .ok e → e.tool = tool →
            (∃ l, decode (Artifact.around word key entry) = .ok l ∧ l.series = [(tool, [e])]
              ∧ (new repoUrl).append tool e = .ok l)
            ∧ ∃ back, Entry.decode e.encode = .ok back ∧ back.same e = true)
      ∧ (∀ repoUrl actions entry tool e l,
          Entry.decode entry = .ok e → (run repoUrl actions).append tool e = .ok l →
          ∃ back, decode l.encode = .ok back ∧ back.same l = true)
      ∧ ∀ text l, decode text = .ok l → ∀ s ∈ l.series, ∀ e ∈ s.2,
          ∃ back, Entry.decode e.encode = .ok back ∧ back.same e = true := by
  refine ⟨fun repoUrl tool word key entry tree fills repo name => ?_, ?_, ?_⟩
  · have around {l : Ledger} := decode_around_eq_ok repo name fills (l := l)
    have added {e : Entry} (own : e.tool = tool)
        : (new repoUrl).append tool e = .ok ⟨max 0 e.date, repoUrl, [(tool, [e])]⟩ :=
      append_eq_ok.mpr ⟨own, rfl, by rw [← own]; rfl⟩
    refine ⟨⟨?_, ?_⟩, fun e accepted own => ⟨⟨_, ?_, rfl, added own⟩, ?_⟩⟩
    · rintro ⟨e, accepted, own⟩
      exact ⟨_, around.mpr ⟨e, accepted, added own⟩⟩
    · rintro ⟨l, accepted⟩
      obtain ⟨e, accepted, added⟩ := around.mp accepted
      exact ⟨e, accepted, (append_eq_ok.mp added).1⟩
    · exact around.mpr ⟨e, accepted, added own⟩
    · exact (Entry.Made.decode accepted).valid.exists_decode_encode
  · intro repoUrl actions entry tool e l accepted added
    have valid := (valid_run repoUrl actions).append (Entry.Made.decode accepted).valid added
    obtain ⟨back, read, same, -⟩ := valid.exists_decode_encode
    exact ⟨back, read, same⟩
  · intro text l accepted s member e recorded
    have valid := valid_of_decode accepted
    exact (valid.entries s member e recorded).exists_decode_encode

/-- An entry of one record, with a negative zero for its value. -/
def zeroEntry : Entry where
  commit := { (default : Commit) with id := "0123456789012345678901234567890123456789" }
  date := 0
  tool := "t"
  records := [⟨"b", .zero true, "s", none, none⟩]

/-- The fields of that entry in their order, without their names. -/
def zeroText : String :=
  " [[[\"\",\"\"],[\"\",\"\"],null,\"0123456789012345678901234567890123456789\","
    ++ "\"\",\"\",null,\"\"],0,\"t\",[[\"b\",-0.0,\"s\"]]]"

/-- A document with no names of fields is accepted on its own and in an artifact, with the sign of
its zero, and is read back without it.
-/
theorem Ledger.decode_around_unnamed
    : ∃ tree : Tree, tree.Fills zeroText.toList ∧ Lexeme (.text "r") "\"r\"".toList
        ∧ Lexeme (.text "t") "\"t\"".toList
        ∧ (∃ e, Entry.decode zeroText = .ok e ∧ e.tool = "t")
        ∧ (∃ l, decode (Artifact.around "\"r\"" "\"t\"" zeroText) = .ok l
          ∧ l.series = [("t", [zeroEntry])]
          ∧ (new "r").append "t" zeroEntry = .ok l
          ∧ (∃ back, decode l.encode = .ok back ∧ back.same l = true)
          ∧ ∀ s ∈ l.series, ∀ e ∈ s.2, ∃ back, Entry.decode e.encode = .ok back
            ∧ back.same e = true)
        ∧ ∃ back, Entry.decode zeroEntry.encode = .ok back ∧ back.same zeroEntry = true := by
  have whole
      : (parseText zeroText.toList).trailing = false
        ∧ (parseText zeroText.toList).tree.skippedFault? = none := by
    decide +kernel
  have parsed : parseText zeroText.toList = ⟨(parseText zeroText.toList).tree, false⟩ := by
    rw [← whole.1]
  have fills := Tree.fills_of_parseText parsed whole.2
  have repo : Lexeme (.text "r") "\"r\"".toList := lexeme_quoted "r"
  have name : Lexeme (.text "t") "\"t\"".toList := lexeme_quoted "t"
  have accepted : Entry.decode zeroText = .ok zeroEntry := by decide +kernel
  obtain ⟨single, grown, parts⟩ := decode_around
  obtain ⟨-, each⟩ := single "r" "t" _ _ _ _ fills repo name
  obtain ⟨⟨l, around, series, added⟩, back⟩ := each zeroEntry accepted rfl
  exact ⟨_, fills, repo, name, ⟨zeroEntry, accepted, rfl⟩,
    ⟨l, around, series, added, grown "r" [] _ _ _ _ accepted added, parts _ _ around⟩, back⟩

end PerfLedger
