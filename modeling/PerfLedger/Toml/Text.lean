import PerfLedger.Json.Token

/-!
Texts in TOML: quoted with double quotes, where a backslash starts an escape, or with single
quotes, where everything stands for itself. Three quotes open a text of several lines. Line
ends are single line feeds here.
-/

namespace PerfLedger.Toml

/-- White space inside a line. -/
def isSpace (c : Char) : Bool := c = ' ' || c = '\t'

/-- A character that may stand in a text or comment as it is: no control but the tab. -/
def isTextChar (c : Char) : Bool := c = '\t' || (' ' ≤ c && c ≠ '\x7f')

/-- A text without the white space at its start. -/
def skipSpaces (text : List Char) : List Char := text.dropWhile isSpace

/-- Every line end written as a line feed, and no byte order mark in front. -/
def normalizeLines : List Char → List Char
  | '\uFEFF' :: rest => unify rest
  | text => unify text
where
  unify : List Char → List Char
    | '\r' :: '\n' :: rest => '\n' :: unify rest
    | c :: rest => c :: unify rest
    | [] => []

/-- What stands before the closing double quote of a line, and what follows that quote. -/
def untilQuote : List Char → Option (List Char × List Char)
  | [] => none
  | '"' :: rest => some ([], rest)
  | '\\' :: c :: rest => (untilQuote rest).map fun (body, rest) => ('\\' :: c :: body, rest)
  | c :: rest =>
      if isTextChar c then (untilQuote rest).map fun (body, rest) => (c :: body, rest)
      else none

/-- What stands before three closing double quotes, and what follows them. Up to two quotes
more belong to the text.
-/
def untilQuotes : List Char → Option (List Char × List Char)
  | '"' :: '"' :: '"' :: '"' :: '"' :: rest => some (['"', '"'], rest)
  | '"' :: '"' :: '"' :: '"' :: rest => some (['"'], rest)
  | '"' :: '"' :: '"' :: rest => some ([], rest)
  | '\\' :: c :: rest => (untilQuotes rest).map fun (body, rest) => ('\\' :: c :: body, rest)
  | c :: rest =>
      if isTextChar c || c = '\n' then
        (untilQuotes rest).map fun (body, rest) => (c :: body, rest)
      else none
  | [] => none

/-- What stands before the closing single quote of a line, and what follows that quote. -/
def untilTick : List Char → Option (List Char × List Char)
  | [] => none
  | '\'' :: rest => some ([], rest)
  | c :: rest =>
      if isTextChar c then (untilTick rest).map fun (body, rest) => (c :: body, rest)
      else none

/-- What stands before three closing single quotes, and what follows them. Up to two quotes
more belong to the text.
-/
def untilTicks : List Char → Option (List Char × List Char)
  | '\'' :: '\'' :: '\'' :: '\'' :: '\'' :: rest => some (['\'', '\''], rest)
  | '\'' :: '\'' :: '\'' :: '\'' :: rest => some (['\''], rest)
  | '\'' :: '\'' :: '\'' :: rest => some ([], rest)
  | c :: rest =>
      if isTextChar c || c = '\n' then
        (untilTicks rest).map fun (body, rest) => (c :: body, rest)
      else none
  | [] => none

/-- The character of a code in hexadecimal digits. -/
def charOfCode? (digits : List Char) : Option Char := do
  let values ← digits.mapM hexValue?
  let code := values.foldl (fun code value => code * 16 + value) 0
  if code.isValidChar then some (Char.ofNat code) else none

/-- What an escape with one letter stands for. -/
def escaped? : Char → Option Char
  | 'b' => some '\x08'
  | 't' => some '\t'
  | 'n' => some '\n'
  | 'f' => some '\x0c'
  | 'r' => some '\r'
  | '"' => some '"'
  | '\\' => some '\\'
  | _ => none

/-- Where a text with escapes stands: in plain text, after a backslash that has to be the last
of its line, or in the white space that such a backslash removes.
-/
inductive EscapeState where
  | plain
  | lineEnd
  | gap
  deriving DecidableEq, Repr

/-- A text with its escapes resolved. A line end is escaped only in a text of several lines. -/
def unescape (manyLines : Bool) : EscapeState → List Char → Option (List Char)
  | .lineEnd, c :: rest =>
      if isSpace c then unescape manyLines .lineEnd rest
      else if c = '\n' then unescape manyLines .gap rest
      else none
  | .lineEnd, [] => none
  | _, '\\' :: 'u' :: a :: b :: c :: d :: rest => do
      return (← charOfCode? [a, b, c, d]) :: (← unescape manyLines .plain rest)
  | _, '\\' :: 'U' :: a :: b :: c :: d :: e :: f :: g :: h :: rest => do
      return (← charOfCode? [a, b, c, d, e, f, g, h]) :: (← unescape manyLines .plain rest)
  | _, '\\' :: c :: rest =>
      if manyLines && isSpace c then unescape manyLines .lineEnd rest
      else if manyLines && c = '\n' then unescape manyLines .gap rest
      else do return (← escaped? c) :: (← unescape manyLines .plain rest)
  | .gap, c :: rest =>
      if isSpace c || c = '\n' then unescape manyLines .gap rest
      else (unescape manyLines .plain rest).map (c :: ·)
  | .plain, c :: rest => (unescape manyLines .plain rest).map (c :: ·)
  | _, [] => some []

/-- A text without the line feed at its start. -/
def skipLineFeed : List Char → List Char
  | '\n' :: rest => rest
  | text => text

/-- Reads a quoted text of one line, and what follows it. -/
def readLineText? : List Char → Option (String × List Char)
  | '"' :: rest => do
      let (body, rest) ← untilQuote rest
      return (String.ofList (← unescape false .plain body), rest)
  | '\'' :: rest => do
      let (body, rest) ← untilTick rest
      return (String.ofList body, rest)
  | _ => none

/-- Reads a quoted text of one line or several, and what follows it. -/
def readText? : List Char → Option (String × List Char)
  | '"' :: '"' :: '"' :: rest => do
      let (body, rest) ← untilQuotes (skipLineFeed rest)
      return (String.ofList (← unescape true .plain body), rest)
  | '\'' :: '\'' :: '\'' :: rest => do
      let (body, rest) ← untilTicks (skipLineFeed rest)
      return (String.ofList body, rest)
  | text => readLineText? text

end PerfLedger.Toml
