import PerfLedger.Artifact.Codec
import PerfLedger.Proofs.Artifact.Frames

/-! The script around a text is transparent. Whatever the text is, a ledger or none, it is decoded
as it is when it stands alone, and a global name without an assignment is always the same fault.
-/

namespace PerfLedger

theorem isBlank_of_isBlankText {s : String} (blank : isBlankText s = true) : IsBlank s.toList :=
  List.all_eq_true.mp blank

namespace Artifact

/-- A text that starts with the global name and goes on without an assignment has no data. -/
theorem payload_eq_error {text rest : List Char}
    (named : trim text = scriptGlobal.toList ++ rest)
    (missing : (trimStart rest).head? ≠ some '=')
    : payload text = .error (.shape .missingAssignment) := by
  have unassigned : dropHead? ['='] (trimStart rest) = none := by
    refine Option.eq_none_iff_forall_ne_some.mpr fun assigned marked => missing ?_
    rw [eq_append_of_dropHead? marked]
    rfl
  simp only [payload, named, dropHead?_append, unassigned]
  rfl

/-- The ways in which a script is written around a text: bare or assigned to the global name, and
with a semicolon or none, with the given space in between.
-/
def scripts (text before named marked after last : String) : List String :=
  [before ++ text ++ after ++ last,
    before ++ text ++ after ++ ";" ++ last,
    before ++ scriptGlobal ++ named ++ "=" ++ marked ++ text ++ after ++ last,
    before ++ scriptGlobal ++ named ++ "=" ++ marked ++ text ++ after ++ ";" ++ last]

theorem frames_of_mem_scripts {text before named marked after last script : String}
    (blank : ∀ space ∈ [before, named, marked, after, last], isBlankText space = true)
    (written : script ∈ scripts text before named marked after last)
    : Frames text.toList script.toList := by
  simp only [List.forall_mem_cons] at blank
  obtain ⟨blankBefore, blankNamed, blankMarked, blankAfter, blankLast, -⟩ := blank
  have nothing : IsBlank [] := List.forall_mem_nil _
  have start := isBlank_of_isBlankText blankBefore
  have assigned := Opening.assignment (isBlank_of_isBlankText blankNamed)
  have between := isBlank_of_isBlankText blankMarked
  have finish := isBlank_of_isBlankText blankLast
  have ended := Ending.semicolon (isBlank_of_isBlankText blankAfter)
  have unended := (isBlank_of_isBlankText blankAfter).append finish
  simp only [scripts, List.mem_cons, List.not_mem_nil, or_false] at written
  rcases written with rfl | rfl | rfl | rfl
  · have framed : Frames text.toList _ := .parts start .absent nothing .absent unended
    simpa using framed
  · have framed : Frames text.toList _ := .parts start .absent nothing ended finish
    simpa using framed
  · have framed : Frames text.toList _ := .parts start assigned between .absent unended
    simpa using framed
  · have framed : Frames text.toList _ := .parts start assigned between ended finish
    simpa using framed

/-- A text is a script around itself. -/
theorem frames_self (text : List Char) : Frames text text := by
  have nothing : IsBlank [] := List.forall_mem_nil _
  have framed : Frames text _ := .parts nothing .absent nothing .absent nothing
  simpa using framed

end Artifact

namespace Ledger

/-- The same characters are read from a script as from the text it is written around, so that the
same is decoded: the same ledger or the same error, in the same place. Only the assignment may not
be missing after the global name.
-/
theorem decode_wrapped
    : (∀ text before named marked after last : String,
        (∀ space ∈ [before, named, marked, after, last], isBlankText space = true) →
        Artifact.Plain text.toList →
        ∀ script ∈ Artifact.scripts text before named marked after last,
          Artifact.payload script.toList = .ok (trim text.toList) ∧ decode script = decode text)
      ∧ ∀ (text : String) (rest : List Char),
          trim text.toList = scriptGlobal.toList ++ rest → (trimStart rest).head? ≠ some '=' →
          decode text = .error (.unreadable (.shape .missingAssignment)) := by
  constructor
  · intro text before named marked after last blank plain script written
    have read := (Artifact.frames_of_mem_scripts blank written).payload_trim plain
    have bare := (Artifact.frames_self text.toList).payload_trim plain
    exact ⟨read, by rw [decode, decode, read, bare]⟩
  · intro text rest named missing
    rw [decode, Artifact.payload_eq_error named missing]
    rfl

/-- An equals sign between blanks is no ledger, in a script or alone, and a script without one is
no script.
-/
theorem decode_wrapped_sign
    : (∀ space ∈ [" ", "", "\n", "\t", "\u3000"], isBlankText space = true)
      ∧ Artifact.Plain " = ".toList
      ∧ " window.BENCHMARK_DATA=\n = \t;\u3000"
        ∈ Artifact.scripts " = " " " "" "\n" "\t" "\u3000"
      ∧ decode " window.BENCHMARK_DATA=\n = \t;\u3000" = decode " = "
      ∧ trim " window.BENCHMARK_DATA;=".toList = scriptGlobal.toList ++ [';', '=']
      ∧ (trimStart [';', '=']).head? ≠ some '='
      ∧ decode " window.BENCHMARK_DATA;="
        = .error (.unreadable (.shape .missingAssignment)) := by
  have blank : ∀ space ∈ [" ", "", "\n", "\t", "\u3000"], isBlankText space = true := by decide
  have plain : Artifact.Plain " = ".toList := ⟨by decide, by decide⟩
  have written : " window.BENCHMARK_DATA=\n = \t;\u3000"
      ∈ Artifact.scripts " = " " " "" "\n" "\t" "\u3000" := by decide
  have named : trim " window.BENCHMARK_DATA;=".toList = scriptGlobal.toList ++ [';', '='] := by
    decide
  have missing : (trimStart [';', '=']).head? ≠ some '=' := by decide
  obtain ⟨wrapped, unassigned⟩ := decode_wrapped
  exact ⟨blank, plain, written, (wrapped _ _ _ _ _ _ blank plain _ written).2, named, missing,
    unassigned _ _ named missing⟩

end Ledger

end PerfLedger
