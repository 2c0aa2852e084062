/-!
Patterns of texts, matched with backtracking. Where a pattern matches in several ways, the first
one after which everything else matches too is taken, and a text is searched from the left.
-/

namespace PerfLedger

/-- What a part of a text looks like. Runs of characters take as many as they can, and optional
parts are rather taken than left out.
-/
inductive Pattern where
  | char (isMember : Char → Bool)
  | run (isMember : Char → Bool)
  | optional (part : Pattern)
  | chain (first following : Pattern)
  | either (first other : Pattern)

namespace Pattern

variable {α : Type}

/-- Matches a run of characters, and then the rest of the text as `next` does. -/
def matchRun (isMember : Char → Bool) (next : List Char → Option α)
    : List Char → Option α
  | [] => next []
  | c :: rest =>
      if isMember c then matchRun isMember next rest <|> next (c :: rest)
      else next (c :: rest)

/-- Matches a pattern at the start of a text, and then the rest of it as `next` does. -/
def matchThen : Pattern → (next : List Char → Option α) → List Char → Option α
  | char _, _, [] => none
  | char isMember, next, c :: rest => if isMember c then next rest else none
  | run isMember, next, text => matchRun isMember next text
  | optional part, next, text => part.matchThen next text <|> next text
  | chain first following, next, text => first.matchThen (following.matchThen next) text
  | either first other, next, text => first.matchThen next text <|> other.matchThen next text

/-- The part that a pattern matches at the start of a text. -/
def ahead? (p : Pattern) (text : List Char) : Option (List Char) :=
  (p.matchThen some text).map fun rest => text.take (text.length - rest.length)

/-- The first part of a text that a pattern matches. -/
def find? (p : Pattern) : List Char → Option (List Char)
  | [] => p.ahead? []
  | c :: rest =>
      match p.ahead? (c :: rest) with
      | some part => some part
      | none => find? p rest

end Pattern

end PerfLedger
