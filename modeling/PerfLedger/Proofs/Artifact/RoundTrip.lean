import PerfLedger.Proofs.Artifact.Checking
import PerfLedger.Proofs.Artifact.Drafts
import PerfLedger.Proofs.Artifact.Frames
import PerfLedger.Proofs.Ledger.Runs
import PerfLedger.Proofs.Ledger.Unsigned

/-! A ledger that is written and read again is the same ledger. The script around the data is
stripped, the data is read as drafts, and the checks rebuild the ledger entry by entry.
-/

namespace PerfLedger

-----------------------------------------------------------------------------------------
-- Drafts of what is in order
-----------------------------------------------------------------------------------------

/-- Numbers that denote the values of records in order. -/
def Denotes (number : Double → JsonNumber) : Prop :=
  ∀ r : Record, r.Valid → (number r.value).toDouble = r.value.unsigned

theorem denotes_valueNumber : Denotes Record.valueNumber := by
  intro r valid
  obtain ⟨negative, size, value, zero⟩ := valid.value_eq
  rw [value, Record.valueNumber_sign zero, Record.valueNumber_toDouble]
  rfl

variable {number : Double → JsonNumber}

/-- The draft of a record in order comes to the record without its sign. -/
theorem Record.yields_draftWith (denotes : Denotes number) {r : Record} (h : r.Valid)
    : (r.draftWith number).Yields (.ok r.unsigned) := by
  obtain ⟨negative, size, value, zero⟩ := h.value_eq
  have read := denotes r h
  have measure : IsMeasure (number r.value).toDouble := by
    rw [read, value]
    exact (Double.isFiniteNonnegative_iff (.finite false size)).mp rfl
  have outcome := RecordDraft.Yields.record (d := r.draftWith number) ⟨rfl, h.named⟩ rfl rfl measure
  rwa [read] at outcome

/-- The draft of an entry in order comes to the entry without the signs of its records. -/
theorem Entry.yields_draftWith (denotes : Denotes number) {e : Entry} (h : e.Valid)
    : (e.draftWith number).Yields (.ok e.unsigned) := by
  have good
      : EntryDraft.Records (e.draftWith number).records (e.records.map Record.unsigned) := by
    refine List.forall₂_map_left_iff.mpr (List.forall₂_map_right_iff.mpr ?_)
    exact List.forall₂_same.mpr fun r member =>
      Record.yields_draftWith denotes (h.records r member)
  have names : (e.records.map Record.unsigned).map Record.name = e.records.map Record.name := by
    rw [List.map_map]
    rfl
  refine .entry good h.tool h.commit ?_ (names ▸ h.distinct)
  simpa [draftWith] using h.nonempty

-----------------------------------------------------------------------------------------
-- Rebuilt ledgers
-----------------------------------------------------------------------------------------

/-- The drafts of a ledger in order come to its series without signs. -/
theorem Ledger.buildsAll_draftWith (denotes : Denotes number) {l : Ledger} (h : l.Valid)
    : LedgerDraft.BuildsAll (l.draftWith number).series l.unsigned.series := by
  refine List.forall₂_map_left_iff.mpr (List.forall₂_map_right_iff.mpr ?_)
  refine List.forall₂_same.mpr fun s member => ⟨rfl, ?_, ?_, ?_⟩
  · exact List.forall_mem_map.mpr (h.keyed s member)
  · refine List.forall₂_map_left_iff.mpr (List.forall₂_map_right_iff.mpr ?_)
    refine List.forall₂_same.mpr fun e recorded => ?_
    exact Entry.yields_draftWith denotes (h.entries s member e recorded)
  · rw [List.map_map]
    exact h.distinct s member

/-- The draft of a ledger in order passes its checks, if its numbers denote the values. -/
theorem Ledger.check_draftWith (denotes : Denotes number) {l : Ledger} (h : l.Valid)
    : (l.draftWith number).check = .ok l.unsigned := by
  have sorted : ((l.draftWith number).series.map Prod.fst).Pairwise (· < ·) := by
    rw [draftWith, seriesDraftsWith, List.map_map]
    exact h.sorted
  have some : l.unsigned.series.filter (fun s => !s.2.isEmpty) = l.unsigned.series := by
    refine List.filter_eq_self.mpr (List.forall_mem_map.mpr fun s member => ?_)
    simp [h.nonempty s member]
  have newest : ∀ date ∈ (l.unsigned.series.flatMap Prod.snd).map Entry.date,
      date ≤ l.lastUpdate := by
    refine List.forall_mem_map.mpr fun _ present => ?_
    obtain ⟨_, series, among⟩ := List.mem_flatMap.mp present
    obtain ⟨s, member, rfl⟩ := List.mem_map.mp series
    obtain ⟨e, recorded, rfl⟩ := List.mem_map.mp among
    exact h.newest s member e recorded
  have recent : ((l.unsigned.series.flatMap Prod.snd).map Entry.date).foldl max l.lastUpdate
      = l.lastUpdate := by
    generalize (l.unsigned.series.flatMap Prod.snd).map Entry.date = dates at newest
    induction dates with
    | nil => rfl
    | cons date dates ih =>
        obtain ⟨first, rest⟩ := List.forall_mem_cons.mp newest
        rw [List.foldl_cons, max_eq_left first, ih rest]
  have checked := LedgerDraft.check_eq_ok sorted (buildsAll_draftWith denotes h)
  rw [some, show (l.draftWith number).lastUpdate = l.lastUpdate from rfl, max_eq_right h.fromZero,
    recent] at checked
  exact checked

-----------------------------------------------------------------------------------------
-- Readable documents
-----------------------------------------------------------------------------------------

/-- The text of an object stands between braces. -/
theorem Json.printPretty_object (member : String × Json) (members : List (String × Json))
    : ∃ inside, (Json.object (member :: members)).printPretty 0 = '{' :: inside ++ ['}'] :=
  ⟨printPrettyMembers 1 (member :: members) ++ lineBreak 0, by simp [printPretty]⟩

theorem JsonNumber.readable_int {value : Int} (range : IsInt64 value)
    : (JsonNumber.int value).Readable := by
  simp only [IsInt64] at range
  simp only [Readable, InRange, leastInt, greatestInt]
  omega

theorem Json.readable_int {value : Int} (range : IsInt64 value) : (Json.int value).Readable :=
  .number (JsonNumber.readable_int range)

theorem Json.readable_optional {α : Type} {write : α → Json} (each : ∀ x, (write x).Readable)
    (name : String) (given : Option α)
    : ∀ member ∈ Json.optional name (given.map write), member.2.Readable := by
  cases given with
  | none => exact List.forall_mem_nil _
  | some x => exact List.forall_mem_singleton.mpr (each x)

theorem Person.readable (p : Person) : p.toJson.Readable := by
  refine .object (List.forall_mem_append.mpr ⟨?_, Json.readable_optional .text _ _⟩)
  simp [Json.Readable.text]

theorem Commit.readable (c : Commit) : c.toJson.Readable := by
  refine .object ?_
  have author := c.author.readable
  have committer := c.committer.readable
  have distinct := Json.readable_optional .bool "distinct" c.distinct
  have treeId := Json.readable_optional .text "tree_id" c.treeId
  simp only [List.forall_mem_append]
  refine ⟨⟨⟨⟨?_, distinct⟩, ?_⟩, treeId⟩, ?_⟩
  · simp [author, committer]
  · simp [Json.Readable.text]
  · simp [Json.Readable.text]

theorem Record.readable {r : Record} (h : r.Valid) : r.toJson.Readable := by
  obtain ⟨negative, size, value, _⟩ := h.value_eq
  have number : (valueNumber r.value).Readable := value ▸ valueNumber_readable negative size
  refine .object ?_
  simp only [List.forall_mem_append]
  refine ⟨⟨?_, Json.readable_optional .text _ _⟩, Json.readable_optional .text _ _⟩
  simp [Json.Readable.text, Json.Readable.number number]

theorem Entry.readable {e : Entry} (date : IsInt64 e.date) (records : ∀ r ∈ e.records, r.Valid)
    : e.toJson.Readable := by
  have array : (Json.array (e.records.map Record.toJson)).Readable :=
    .array (List.forall_mem_map.mpr fun r member => Record.readable (records r member))
  refine .object ?_
  simp [Commit.readable, Json.readable_int date, Json.Readable.text, array]

/-- The object of a ledger can be read if its dates have 64 bits and its records are in order. -/
theorem Ledger.readable {l : Ledger} (range : IsInt64 l.lastUpdate)
    (dates : ∀ s ∈ l.series, ∀ e ∈ s.2, IsInt64 e.date)
    (records : ∀ s ∈ l.series, ∀ e ∈ s.2, ∀ r ∈ e.records, r.Valid)
    : l.toJson.Readable := by
  have series (s : String × List Entry) (member : s ∈ l.series)
      : (Json.array (s.2.map Entry.toJson)).Readable :=
    .array (List.forall_mem_map.mpr fun e recorded =>
      Entry.readable (dates s member e recorded) (records s member e recorded))
  have entries : (Json.object (seriesMembers l.series)).Readable :=
    .object (List.forall_mem_map.mpr series)
  refine .object (List.forall_mem_cons.mpr ⟨Json.readable_int range, ?_⟩)
  refine List.forall_mem_cons.mpr ⟨.text _, List.forall_mem_singleton.mpr entries⟩

-----------------------------------------------------------------------------------------
-- Whole artifacts
-----------------------------------------------------------------------------------------

namespace Ledger

/-- An artifact is the data of its ledger behind the head of a script. -/
theorem encode_eq_layout (l : Ledger)
    : l.encode
      = Artifact.scriptHead
        ++ String.ofList ((l.data Record.valueNumber).layout JsonNumber.print []) := by
  rw [encode, Json.pretty, Json.printPretty_eq_layout, toJson_eq_data]
  rfl

/-- The data of a ledger stands between braces, and is what its script holds. -/
theorem payload_layout (number : Double → JsonNumber) (write : JsonNumber → List Char)
    (l : Ledger)
    : Artifact.payload
        (Artifact.scriptHead ++ String.ofList ((l.data number).layout write [])).toList
      = .ok ((l.data number).layout write []) := by
  obtain ⟨inside, braces⟩ : ∃ inside, (l.data number).layout write [] = '{' :: inside ++ ['}'] := by
    rw [data_eq, Json.layout_object]
    exact block_ends ..
  rw [String.toList_append, String.toList_ofList, braces]
  exact (Artifact.frames_script _).payload_eq (Artifact.apart_object inside)

theorem payload_encode (l : Ledger)
    : Artifact.payload l.encode.toList = .ok (l.toJson.printPretty 0) := by
  rw [encode_eq_layout, payload_layout, toJson_eq_data, Json.printPretty_eq_layout]
  rfl

/-- The data of a ledger in order is read as the ledger without signs, if its numbers denote the
values and each is written as one word.
-/
theorem Valid.decode_layout {l : Ledger} (h : l.Valid) (denotes : Denotes number)
    {write : JsonNumber → List Char}
    (reads : ∀ x ∈ (l.data number).numbers, Lexeme (.number x) (write x))
    : decode (Artifact.scriptHead ++ String.ofList ((l.data number).layout write []))
      = .ok l.unsigned := by
  have dated : ∀ s ∈ l.series, ∀ e ∈ s.2, IsInt64 e.date :=
    fun s member e recorded => (h.entries s member e recorded).date
  have document
      : readDocument (LedgerDraft.shape maxDepth).read ((l.data number).layout write [])
        = .ok (l.draftWith number) := by
    rw [readDocument, Json.parseText_layout reads]
    exact bind_eq_ok.mpr ⟨_, read_data number _ h.range h.sorted dated, rfl⟩
  rw [decode, payload_layout]
  refine bind_eq_ok.mpr ⟨_, rfl, bind_eq_ok.mpr ⟨l.draftWith number, ?_, ?_⟩⟩
  · rw [document]
    rfl
  · exact check_draftWith denotes h

/-- The object of a ledger in order can be read. -/
theorem Valid.readable {l : Ledger} (h : l.Valid) : l.toJson.Readable :=
  Ledger.readable h.range (fun s member e recorded => (h.entries s member e recorded).date)
    fun s member e recorded => (h.entries s member e recorded).records

/-- The text of a ledger in order is read as the ledger without signs. -/
theorem Valid.decode_encode {l : Ledger} (h : l.Valid) : decode l.encode = .ok l.unsigned := by
  have object := h.readable
  rw [toJson_eq_data] at object
  rw [encode_eq_layout]
  exact h.decode_layout denotes_valueNumber fun x member => (object.numbers x member).lexeme

theorem Valid.encode_unsigned {l : Ledger} (h : l.Valid) : l.unsigned.encode = l.encode := by
  rw [encode, encode, toJson_unsigned h]

/-- Ledgers in order with the same text are the same without signs. -/
theorem Valid.unsigned_eq_of_encode_eq {l m : Ledger} (hl : l.Valid) (hm : m.Valid)
    (same : l.encode = m.encode)
    : l.unsigned = m.unsigned := by
  have read := hl.decode_encode
  rw [same, hm.decode_encode] at read
  exact (Except.ok.inj read).symm

end Ledger

/-- The text of an entry in order is read as the entry without signs. -/
theorem Entry.Valid.decode_encode {e : Entry} (h : e.Valid)
    : Entry.decode e.encode = .ok e.unsigned := by
  obtain ⟨inside, printed⟩ := Json.printPretty_object ("commit", e.commit.toJson)
    [("date", .int e.date), ("tool", .text e.tool),
      ("benches", .array (e.records.map Record.toJson))]
  have object : e.toJson.printPretty 0 = '{' :: inside ++ ['}'] := printed
  have text : trim e.encode.toList = e.toJson.printPretty 0 := by
    rw [encode, Json.pretty, String.toList_ofList, object]
    exact trim_append _ rfl rfl
  have document
      : readDocument (EntryDraft.shape maxDepth).read (e.toJson.printPretty 0)
        = .ok e.draft := by
    rw [readDocument, Json.parseText_printPretty (readable h.date h.records)]
    exact bind_eq_ok.mpr ⟨_, read_toJson _ h.date, rfl⟩
  have checked : e.draft.check = .ok e.unsigned := (yields_draftWith denotes_valueNumber h).check_eq
  rw [decode, text, document]
  refine bind_eq_ok.mpr ⟨e.draft, rfl, ?_⟩
  rw [checked]
  rfl

/-- A script holds no entry, starting with a name. -/
theorem Entry.decode_encode_ledger (l : Ledger) (e : Entry) : Entry.decode l.encode ≠ .ok e := by
  obtain ⟨inside, printed⟩ := Json.printPretty_object ("lastUpdate", .int l.lastUpdate)
    [("repoUrl", .text l.repoUrl), ("entries", .object (Ledger.seriesMembers l.series))]
  have start : ∃ more, Artifact.scriptHead.toList = 'w' :: more := ⟨_, rfl⟩
  have script : ∃ more, l.encode.toList = 'w' :: more ++ ['}'] := by
    have object : l.toJson.printPretty 0 = '{' :: inside ++ ['}'] := printed
    obtain ⟨more, start⟩ := start
    rw [Ledger.encode, String.toList_append, Json.pretty, String.toList_ofList, object, start]
    exact ⟨more ++ '{' :: inside, by simp⟩
  have unreadable (text : List Char)
      : ∃ cause, readDocument (EntryDraft.shape maxDepth).read ('w' :: text) = .error cause :=
    ⟨_, rfl⟩
  obtain ⟨more, script⟩ := script
  obtain ⟨cause, failed⟩ := unreadable (more ++ ['}'])
  have whole : trim l.encode.toList = 'w' :: (more ++ ['}']) := by
    rw [script]
    exact trim_append more rfl rfl
  rw [decode, whole, failed]
  exact nofun

namespace Ledger

/-- What is read back from the text of a ledger in order is that ledger by value, and has the
same text.
-/
theorem Valid.exists_decode_encode {l : Ledger} (h : l.Valid)
    : ∃ back, decode l.encode = .ok back ∧ back.same l = true ∧ back.encode = l.encode := by
  have valid := valid_of_decode h.decode_encode
  exact ⟨l.unsigned, h.decode_encode,
    (same_iff_unsigned valid h).mpr (unsigned_unsigned l), h.encode_unsigned⟩

/-- Every ledger that a run leads to is read back from its text, equal by value and with the
same text. So ledgers with the same text are equal, and what is read from any text is read
again from what is written for it.
-/
theorem decode_encode_of_run
    : (∀ repoUrl actions,
        let l := run repoUrl actions
        ∃ back, decode l.encode = .ok back ∧ back.same l = true ∧ back.encode = l.encode)
      ∧ (∀ repoUrl actions repoUrl' actions',
          let l := run repoUrl actions
          let m := run repoUrl' actions'
          l.encode = m.encode → l.same m = true)
      ∧ ∀ text l, decode text = .ok l →
          ∃ back, decode l.encode = .ok back ∧ back.same l = true ∧ back.encode = l.encode := by
  refine ⟨fun repoUrl actions => (valid_run repoUrl actions).exists_decode_encode, ?_,
    fun text l read => (valid_of_decode read).exists_decode_encode⟩
  intro repoUrl actions repoUrl' actions' l m same
  have hl := valid_run repoUrl actions
  have hm := valid_run repoUrl' actions'
  exact (same_iff_unsigned hl hm).mpr (hl.unsigned_eq_of_encode_eq hm same)

/-- A ledger with an entry of which nothing is left out is read back. It has the text of a ledger
whose value differs from its own in the sign of zero, and so the two are equal.
-/
theorem decode_encode_of_annotated
    : let plain := run "repo" [.append "bench" (.annotated 1 (.zero false) rfl)]
      let signed := run "other" [.new "repo", .append "bench" (.annotated 1 (.zero true) rfl)]
      (∃ back, decode signed.encode = .ok back ∧ back.same signed = true
          ∧ back.encode = signed.encode)
        ∧ signed ≠ plain
        ∧ signed.encode = plain.encode
        ∧ signed.same plain = true := by
  intro plain signed
  obtain ⟨again, equal, -⟩ := decode_encode_of_run
  have unsigned : signed.unsigned = plain.unsigned := rfl
  have text : signed.encode = plain.encode := by
    rw [← (valid_run _ _).encode_unsigned, unsigned, (valid_run _ _).encode_unsigned]
  refine ⟨again _ _, ?_, text, equal _ _ _ _ text⟩
  decide +kernel

end Ledger

end PerfLedger
