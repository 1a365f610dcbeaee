/-!
# White space

Every reader of this library that trims text trims the characters with Unicode's *White_Space*
property: the tab to the carriage return, the ASCII space, the next-line control, the no-break
spaces and the typographic spaces up to U+3000.  Zero-width characters (U+200B, U+FEFF) are not
white space.

* `isBlank`: the class itself.
* `trimStart`, `trimEnd`, `trim`: what is left of a text without the white space around it.
-/

namespace RadarConform.Text

/-- The characters with the White_Space property. -/
def isBlank (c : Char) : Bool :=
  let n := c.toNat
  (9 ≤ n && n ≤ 13) || n == 0x20 || n == 0x85 || n == 0xA0 || n == 0x1680
    || (0x2000 ≤ n && n ≤ 0x200A) || n == 0x2028 || n == 0x2029 || n == 0x202F
    || n == 0x205F || n == 0x3000

/-- A text without its leading white space. -/
def trimStart (cs : List Char) : List Char := cs.dropWhile isBlank

/-- A text without its trailing white space. -/
def trimEnd (cs : List Char) : List Char := (cs.reverse.dropWhile isBlank).reverse

/-- A text without the white space on either side of it. -/
def trim (cs : List Char) : List Char := trimEnd (trimStart cs)

/-- `trim` on strings. -/
def trimmed (s : String) : String := .ofList (trim s.toList)

/-- A text that holds nothing but white space. -/
def isBlankText (s : String) : Bool := s.toList.all isBlank

end RadarConform.Text
