import RadarConform.Unicode.Printable

/-!
# Quoted text

Messages quote the texts they speak about, so that every character can be told: the text stands
between double quotes, a quote or a backslash inside it after a backslash, tab, line feed,
carriage return and NUL by their letters, and every other character that cannot be shown as
`\u{…}` with its code point in hexadecimal.  No line break survives quoting.

* `quoted`: a text between double quotes.
* `quotedChar`: one character between single quotes.
-/

namespace RadarConform.Text

/-- A natural number in lower-case hexadecimal. -/
def hexText (n : Nat) : List Char := Nat.toDigits 16 n

/-- A character inside quoted text, where `mark` is the quotation mark around it. -/
def escapedChar (mark c : Char) : List Char :=
  if c = '\t' then ['\\', 't']
  else if c = '\n' then ['\\', 'n']
  else if c = '\r' then ['\\', 'r']
  else if c.toNat = 0 then ['\\', '0']
  else if c = '\\' ∨ c = mark then ['\\', c]
  else if Unicode.isPrintable c then [c]
  else ['\\', 'u', '{'] ++ hexText c.toNat ++ ['}']

/-- A text between double quotes. -/
def quoted (s : String) : String :=
  .ofList ('"' :: (s.toList.flatMap (escapedChar '"') ++ ['"']))

/-- A character between single quotes. -/
def quotedChar (c : Char) : String := .ofList ('\'' :: (escapedChar '\'' c ++ ['\'']))

end RadarConform.Text
