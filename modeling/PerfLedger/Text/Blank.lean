/-! Blank characters and trimming. Blank means white space in the sense of Unicode. -/

namespace PerfLedger

/-- The property `White_Space` of Unicode. -/
def isBlank (c : Char) : Bool :=
  let code := c.toNat
  (0x9 ≤ code && code ≤ 0xD)
  || code == 0x20
  || code == 0x85
  || code == 0xA0
  || code == 0x1680
  || (0x2000 ≤ code && code ≤ 0x200A)
  || code == 0x2028
  || code == 0x2029
  || code == 0x202F
  || code == 0x205F
  || code == 0x3000

/-- A text without the blanks at its start. -/
def trimStart (text : List Char) : List Char := text.dropWhile isBlank

/-- A text without the blanks at its end. -/
def trimEnd (text : List Char) : List Char := (text.reverse.dropWhile isBlank).reverse

/-- A text without the blanks at either end. -/
def trim (text : List Char) : List Char := trimEnd (trimStart text)

/-- A string that holds nothing but blanks. -/
def isBlankText (s : String) : Bool := s.toList.all isBlank

end PerfLedger
