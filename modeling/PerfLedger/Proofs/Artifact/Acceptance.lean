import PerfLedger.Proofs.Artifact.Listings
import PerfLedger.Proofs.Artifact.RoundTrip

/-! Which artifacts are accepted. A text in the shape of an artifact is read as a ledger if no
tool comes twice and no series has a fault; nothing of it is lost then. Otherwise its first
fault is named, in the order of the tools and not in that of the text.
-/

namespace PerfLedger

namespace LedgerDraft

-----------------------------------------------------------------------------------------
-- Outcomes
-----------------------------------------------------------------------------------------

/-- A listing without a fault: no tool comes twice, and no series has a fault. -/
structure Sound (listing : LedgerDraft) : Prop where
  distinct : (listing.series.map Prod.fst).Nodup
  series : ∀ s ∈ listing.series, SeriesSound s.1 s.2

/-- The dates of all drafts. -/
def dates (listing : LedgerDraft) : List Int :=
  (listing.series.flatMap Prod.snd).map EntryDraft.date

/-- What a listing comes to: the series of every tool, in the order of the document. Tools
without entries are left out, and the last update is the newest of all dates from zero on.
-/
structure Gives (listing : LedgerDraft) (l : Ledger) : Prop where
  repoUrl : l.repoUrl = listing.repoUrl
  sorted : l.tools.Pairwise (· < ·)
  tools : ∀ tool, tool ∈ l.tools ↔ ∃ drafts, (tool, drafts) ∈ listing.series ∧ drafts ≠ []
  entries : ∀ s ∈ listing.series,
    List.Forall₂ (fun d e => d.Yields (.ok e)) s.2 (l.entriesOf s.1)
  lastUpdate : l.lastUpdate = listing.dates.foldl max (max 0 listing.lastUpdate)

/-- The first fault of a listing: that of the first tool in order whose series has one. -/
def FirstFault (listing : LedgerDraft) (cause : DecodeError) : Prop :=
  ∃ tool earlier d later, (tool, earlier ++ d :: later) ∈ listing.series
    ∧ (∀ s ∈ listing.series, s.1 < tool → SeriesSound s.1 s.2)
    ∧ SeriesSound tool earlier ∧ d.Fault tool earlier cause

variable {listing : LedgerDraft}

-----------------------------------------------------------------------------------------
-- Accepted listings
-----------------------------------------------------------------------------------------

/-- What is found under a tool when series without entries are left out. -/
theorem entriesOf_filter {l : Ledger} {built : List (String × List Entry)}
    (series : l.series = built.filter fun s => !s.2.isEmpty)
    (distinct : (built.map Prod.fst).Nodup) {s : String × List Entry} (member : s ∈ built)
    : l.entriesOf s.1 = s.2 := by
  have kept : (l.series.map Prod.fst).Nodup := by
    rw [series]
    exact distinct.sublist (List.filter_sublist.map _)
  by_cases empty : s.2 = []
  · have absent : s.1 ∉ l.series.map Prod.fst := by
      rw [series]
      intro present
      obtain ⟨t, recorded, same⟩ := List.mem_map.mp present
      obtain ⟨recorded, some⟩ := List.mem_filter.mp recorded
      have both : t = s := List.inj_on_of_nodup_map distinct recorded member same
      simp [both, empty] at some
    rw [Ledger.entriesOf, lookup_eq_none absent, empty]
    rfl
  · have recorded : (s.1, s.2) ∈ l.series := by
      rw [series]
      exact List.mem_filter.mpr ⟨member, by simp [empty]⟩
    rw [Ledger.entriesOf, lookup_of_mem kept recorded]
    rfl

theorem BuildsAll.dates_eq {series : List (String × List EntryDraft)}
    {built : List (String × List Entry)} (all : BuildsAll series built)
    : (built.flatMap Prod.snd).map Entry.date
      = (series.flatMap Prod.snd).map EntryDraft.date := by
  have dates {drafts : List EntryDraft} {entries : List Entry}
      (each : List.Forall₂ (fun d e => d.Yields (.ok e)) drafts entries)
      : entries.map Entry.date = drafts.map EntryDraft.date := by
    induction each with
    | nil => rfl
    | cons first _ ih => exact List.cons_eq_cons.mpr ⟨first.fields.2.1, ih⟩
  induction all with
  | nil => rfl
  | cons first _ ih =>
      rw [List.flatMap_cons, List.flatMap_cons, List.map_append, List.map_append, ih,
        dates first.2.each]

/-- A listing without a fault comes to a ledger. -/
theorem Sound.exists_ledger (sound : listing.Sound)
    : ∃ l, (orUnreadable listing.ordered >>= check) = .ok l ∧ listing.Gives l := by
  obtain ⟨series, order, sorted, perm⟩ := exists_ordered sound.distinct
  have each : ∀ s ∈ series, ∃ t : String × List Entry, t.1 = s.1 ∧ Builds s.1 s.2 t.2 := by
    intro s member
    obtain ⟨entries, builds⟩ := (sound.series s (perm.mem_iff.mp member)).exists_builds
    exact ⟨(s.1, entries), rfl, builds⟩
  obtain ⟨built, all⟩ := exists_forall₂ each
  have checked : check { listing with series } = _ := check_eq_ok sorted all
  have keys : built.map Prod.fst = series.map Prod.fst := BuildsAll.map_fst all
  have distinct : (built.map Prod.fst).Nodup :=
    keys ▸ (perm.map Prod.fst).nodup_iff.mpr sound.distinct
  refine ⟨_, (bind_eq_of_ok (by rw [order]; rfl)).trans checked, rfl, ?_, ?_, ?_, ?_⟩
  · exact List.Pairwise.sublist (List.filter_sublist.map _) (keys ▸ sorted)
  · intro tool
    rw [Ledger.tools, List.mem_map]
    constructor
    · rintro ⟨t, recorded, rfl⟩
      obtain ⟨recorded, some⟩ := List.mem_filter.mp recorded
      obtain ⟨s, member, own, builds⟩ := exists_mem_of_forall₂ all.flip t recorded
      refine ⟨s.2, ?_, builds.nonempty_iff.mpr (by simpa using some)⟩
      rw [own]
      exact perm.mem_iff.mp member
    · rintro ⟨drafts, member, some⟩
      obtain ⟨t, recorded, own, builds⟩ := exists_mem_of_forall₂ all _ (perm.mem_iff.mpr member)
      refine ⟨t, List.mem_filter.mpr ⟨recorded, ?_⟩, own⟩
      simpa using builds.nonempty_iff.mp some
  · intro s member
    obtain ⟨t, recorded, own, builds⟩ := exists_mem_of_forall₂ all s (perm.mem_iff.mpr member)
    rw [← own, entriesOf_filter rfl distinct recorded]
    exact builds.each
  · rw [BuildsAll.dates_eq all]
    exact ((perm.flatMap_right Prod.snd).map EntryDraft.date).foldl_eq _

-----------------------------------------------------------------------------------------
-- Refused listings
-----------------------------------------------------------------------------------------

/-- A listing of different tools is refused for its first fault. -/
theorem FirstFault.refused {cause : DecodeError} (h : listing.FirstFault cause)
    (distinct : (listing.series.map Prod.fst).Nodup)
    : (orUnreadable listing.ordered >>= check) = .error cause := by
  obtain ⟨tool, earlier, d, later, member, soundBefore, sound, fault⟩ := h
  obtain ⟨series, order, sorted, perm⟩ := exists_ordered distinct
  obtain ⟨before, after, parts⟩ := List.append_of_mem (perm.mem_iff.mpr member)
  refine (bind_eq_of_ok (by rw [order]; rfl)).trans ?_
  refine check_eq_error parts sorted ?_ sound fault
  intro s present
  rw [parts, List.map_append, List.pairwise_append] at sorted
  have first : s.1 < tool :=
    sorted.2.2 _ (List.mem_map_of_mem present) _ List.mem_cons_self
  refine soundBefore s (perm.mem_iff.mp ?_) first
  rw [parts]
  exact List.mem_append_left _ present

/-- A listing of different tools has a first fault unless it has none. -/
theorem sound_or_firstFault (distinct : (listing.series.map Prod.fst).Nodup)
    : listing.Sound ∨ ∃ cause, listing.FirstFault cause := by
  obtain ⟨series, -, sorted, perm⟩ := exists_ordered distinct
  let Outcome (s : String × List EntryDraft) : Except DecodeError Unit → Prop
    | .ok _ => SeriesSound s.1 s.2
    | .error cause => ∃ earlier d later, s.2 = earlier ++ d :: later
        ∧ SeriesSound s.1 earlier ∧ d.Fault s.1 earlier cause
  have total (s : String × List EntryDraft) : ∃ result, Outcome s result := by
    rcases seriesSound_or_fault s.1 s.2 with sound | ⟨earlier, d, later, cause, fault⟩
    · exact ⟨.ok (), sound⟩
    · exact ⟨.error cause, earlier, d, later, fault⟩
  rcases forall₂_or_first total series with
    ⟨_, all⟩ | ⟨before, bad, after, _, cause, rfl, good, earlier, d, later, parts, sound, fault⟩
  · refine .inl ⟨distinct, fun s member => ?_⟩
    obtain ⟨_, _, sound⟩ := exists_mem_of_forall₂ all s (perm.mem_iff.mpr member)
    exact sound
  · refine .inr ⟨cause, bad.1, earlier, d, later, ?_, ?_, sound, fault⟩
    · rw [← parts]
      exact perm.mem_iff.mp (by simp)
    · intro s member first
      rw [List.map_append, List.pairwise_append, List.map_cons, List.pairwise_cons] at sorted
      rcases List.mem_append.mp (perm.mem_iff.mpr member) with present | present
      · obtain ⟨_, _, sound⟩ := exists_mem_of_forall₂ good s present
        exact sound
      · rcases List.mem_cons.mp present with rfl | later
        · exact absurd first (String.lt_irrefl _)
        · have behind := sorted.2.1.1 _ (List.mem_map_of_mem later)
          exact absurd first (String.lt_asymm behind)

/-- A listing in which a tool comes again is refused. -/
theorem exists_refused (repeated : ¬ (listing.series.map Prod.fst).Nodup)
    : ∃ cause, (orUnreadable listing.ordered >>= check) = .error cause := by
  rcases nodup_or_first_repeated (listing.series.map Prod.fst) with
    distinct | ⟨_, tool, _, names, distinct, present⟩
  · contradiction
  · obtain ⟨before, rest, parts, rfl, later⟩ := List.map_eq_append_iff.mp names
    obtain ⟨⟨_, drafts⟩, after, rfl, rfl, -⟩ := List.map_eq_cons_iff.mp later
    rw [ordered_eq_error parts distinct present]
    exact ⟨_, rfl⟩

end LedgerDraft

-----------------------------------------------------------------------------------------
-- Texts
-----------------------------------------------------------------------------------------

/-- A text in the shape of an artifact is accepted exactly if its listing has no fault, and
the ledger read from it is what the listing gives. A tool that comes again is refused, wherever
its series stand; and if none does, the error is the first fault, by tool and then by place.
-/
theorem Ledger.decode_of_lists {text : String} {listing : LedgerDraft}
    (lists : LedgerDraft.Lists text listing)
    : ((∃ l, decode text = .ok l) ↔ listing.Sound)
      ∧ (∀ l, decode text = .ok l → listing.Gives l)
      ∧ (∀ before tool drafts after, listing.series = before ++ (tool, drafts) :: after →
          (before.map Prod.fst).Nodup → tool ∈ before.map Prod.fst →
          decode text = .error (.unreadable (.shape (.duplicateSeries tool))))
      ∧ ((listing.series.map Prod.fst).Nodup →
          ∀ cause, decode text = .error cause ↔ listing.FirstFault cause) := by
  rw [lists.decode_eq]
  have sound {l : Ledger}
      (accepted : (orUnreadable listing.ordered >>= LedgerDraft.check) = .ok l)
      : listing.Sound := by
    by_cases distinct : (listing.series.map Prod.fst).Nodup
    · rcases LedgerDraft.sound_or_firstFault distinct with sound | ⟨cause, fault⟩
      · exact sound
      · rw [fault.refused distinct] at accepted
        contradiction
    · obtain ⟨cause, refused⟩ := LedgerDraft.exists_refused distinct
      rw [refused] at accepted
      contradiction
  refine ⟨⟨fun ⟨l, accepted⟩ => sound accepted, fun sound => ?_⟩, ?_, ?_, ?_⟩
  · obtain ⟨l, accepted, -⟩ := sound.exists_ledger
    exact ⟨l, accepted⟩
  · intro l accepted
    obtain ⟨other, accepted', gives⟩ := (sound accepted).exists_ledger
    rw [accepted] at accepted'
    exact Except.ok.inj accepted' ▸ gives
  · intro before tool drafts after parts distinct repeated
    rw [LedgerDraft.ordered_eq_error parts distinct repeated]
    rfl
  · intro distinct cause
    refine ⟨fun refused => ?_, fun fault => fault.refused distinct⟩
    rcases LedgerDraft.sound_or_firstFault distinct with sound | ⟨first, fault⟩
    · obtain ⟨l, accepted, -⟩ := sound.exists_ledger
      rw [refused] at accepted
      contradiction
    · rw [fault.refused distinct] at refused
      exact Except.error.inj refused ▸ fault

/-- What is written for a ledger, in order or not, is a listing if its object can be read. -/
theorem LedgerDraft.lists_encode {l : Ledger} {listing : LedgerDraft}
    (readable : l.toJson.Readable)
    (read : (listedShape maxDepth).read l.toJson.tree = .ok listing)
    : Lists l.encode listing := by
  refine ⟨_, l.payload_encode, ?_⟩
  rw [readDocument, Json.parseText_printPretty readable]
  exact bind_eq_ok.mpr ⟨listing, read, rfl⟩

/-- Of two series that have a fault each, the one of the first tool is named although it comes
last. Series without entries are accepted and leave nothing, unless one comes again.
-/
theorem Ledger.decode_of_lists_unordered
    : let foreign : Entry := ⟨{ (default : Commit) with id := "f" }, 3, "c", []⟩
      let written (series : List (String × List Entry)) : String := (mk 5 "" series).encode
      decode (written [("b", [foreign]), ("a", [foreign])])
          = .error (.unreadable (.shape (.foreignTool 0 "a" "c")))
        ∧ (∃ l, decode (written [("b", []), ("a", [])]) = .ok l ∧ l.tools = []
            ∧ l.lastUpdate = 5)
        ∧ decode (written [("b", []), ("b", [])])
          = .error (.unreadable (.shape (.duplicateSeries "b"))) := by
  intro foreign written
  have range (date : Int) (small : 0 ≤ date ∧ date ≤ 5) : IsInt64 date := by
    unfold IsInt64
    omega
  have none (tool : String) : SeriesSound tool [] :=
    ⟨List.forall_mem_nil _, List.forall_mem_nil _, List.nodup_nil⟩
  refine ⟨?_, ?_, ?_⟩
  · let draft : EntryDraft := foreign.draft
    have lists : LedgerDraft.Lists (written [("b", [foreign]), ("a", [foreign])])
        ⟨5, "", [("b", [draft]), ("a", [draft])]⟩ := by
      refine LedgerDraft.lists_encode (readable (range 5 (by decide)) ?_ ?_) rfl
      · simp [foreign, range]
      · simp [foreign]
    refine ((decode_of_lists lists).2.2.2 (by decide) _).mpr ?_
    refine ⟨"a", [], draft, [], by simp, ?_, none "a", .foreign (by decide)⟩
    have least : ∀ s ∈ [("b", [draft]), ("a", [draft])], ¬ s.1 < "a" := by
      simp only [List.forall_mem_cons]
      decide
    exact fun s member before => absurd before (least s member)
  · have lists : LedgerDraft.Lists (written [("b", []), ("a", [])])
        ⟨5, "", [("b", []), ("a", [])]⟩ :=
      LedgerDraft.lists_encode (readable (range 5 (by decide)) (by simp) (by simp)) rfl
    obtain ⟨accepted, gives, -⟩ := decode_of_lists lists
    obtain ⟨l, read⟩ := accepted.mpr ⟨by decide, by simp [none]⟩
    refine ⟨l, read, ?_, (gives l read).lastUpdate⟩
    refine List.eq_nil_iff_forall_not_mem.mpr fun tool member => ?_
    obtain ⟨drafts, series, some⟩ := ((gives l read).tools tool).mp member
    simp_all
  · have lists : LedgerDraft.Lists (written [("b", []), ("b", [])])
        ⟨5, "", [("b", []), ("b", [])]⟩ :=
      LedgerDraft.lists_encode (readable (range 5 (by decide)) (by simp) (by simp)) rfl
    exact (decode_of_lists lists).2.2.1 [("b", [])] "b" [] [] rfl (by decide) (by decide)

end PerfLedger
