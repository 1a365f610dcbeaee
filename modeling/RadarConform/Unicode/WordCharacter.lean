import RadarConform.Unicode.GeneralCategory
import RadarConform.Unicode.Property

/-!
# Word characters and digits

* `digits`: the decimal digits of all scripts.
* `isWordCharacter`: letters, marks, decimal digits, connector punctuation and joiners.
-/

namespace RadarConform.Unicode

/-- The table listed under a name, empty when there is none. -/
def tableOr (tables : List (List String × String)) (name : String) : RangeTable :=
  (RangeTable.find? tables name).getD { turns := #[] }

/-- Decimal digits. -/
def digits : RangeTable := tableOr categories "nd"

/-- The tables of which word characters are the union. -/
def wordTables : List RangeTable :=
  [tableOr properties "alphabetic", tableOr categories "mn", tableOr categories "mc",
    tableOr categories "me", digits, tableOr categories "pc", tableOr properties "joincontrol"]

/-- An ASCII letter or digit or the underscore. -/
def isAsciiWord (c : Char) : Bool :=
  ('a' ≤ c && c ≤ 'z') || ('A' ≤ c && c ≤ 'Z') || ('0' ≤ c && c ≤ '9') || c == '_'

/-- A word character.  ASCII is decided without the tables. -/
def isWordCharacter (c : Char) : Bool :=
  if c.toNat < 128 then isAsciiWord c else wordTables.any (·.contains c.toNat)

end RadarConform.Unicode
