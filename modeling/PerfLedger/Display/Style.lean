/-! Styles of terminal text. Without colours every style leaves the text as it is. -/

namespace PerfLedger

/-- A style, as the codes that turn it on. -/
structure Style where
  codes : String
  deriving DecidableEq, Repr

namespace Style

/-- A regression that counts as a failure. -/
def failure : Style := ⟨"1;31"⟩

/-- A regression that does not count as a failure. -/
def warning : Style := ⟨"1;33"⟩

/-- Text of less weight. -/
def faint : Style := ⟨"2"⟩

/-- Good news. -/
def good : Style := ⟨"32"⟩

/-- A caption. -/
def caption : Style := ⟨"1"⟩

/-- A title. -/
def title : Style := ⟨"1;36"⟩

/-- The sequence that ends every style. -/
def reset : String := "\x1b[0m"

/-- A text in a style. Where the text itself ends a style, this one is taken up again. -/
def paint (colors : Bool) (style : Style) (text : String) : String :=
  if colors then
    let on := "\x1b[" ++ style.codes ++ "m"
    on ++ text.replace reset (reset ++ on) ++ reset
  else
    text

/-- Whether output is to be in colours: as it is forced on or off, and else when it goes to a
terminal and is not declined.
-/
def isWanted (environment : List (String × String)) (terminal : Bool) : Bool :=
  let isOn (name : String) : Option Bool := (environment.lookup name).map (· != "0")
  if isOn "CLICOLOR_FORCE" = some true then true
  else if (isOn "NO_COLOR").isSome then false
  else (isOn "CLICOLOR").getD true && terminal

end Style

end PerfLedger
