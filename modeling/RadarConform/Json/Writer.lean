import RadarConform.Json.Basic

/-!
# Writing JSON

Records are written in the order of their entries.  Strings escape the quote, the backslash and
the controls and nothing else.  Real numbers are written with the fewest digits that read back
(a tie goes to the even digit), positionally between 10^-5 and 10^16 and with an exponent and its
sign outside, and whole ones keep `.0`.

* `Json.compact`: a value without blanks.
* `Json.pretty`: a value with one item to a line, indented by two spaces.
-/

namespace RadarConform.Json

/-- A character inside a string. -/
def escaped (c : Char) : List Char :=
  match c with
  | '"' => ['\\', '"']
  | '\\' => ['\\', '\\']
  | '\x08' => ['\\', 'b']
  | '\x0c' => ['\\', 'f']
  | '\n' => ['\\', 'n']
  | '\r' => ['\\', 'r']
  | '\t' => ['\\', 't']
  | _ =>
    if c.toNat < 0x20 then
      ['\\', 'u', '0', '0'] ++ (if c.toNat < 16 then ['0'] else []) ++ Nat.toDigits 16 c.toNat
    else [c]

/-- A string between quotes. -/
def stringText (s : String) : String := .ofList ('"' :: (s.toList.flatMap escaped ++ ['"']))

/-- The digits of a positive decimal without trailing zeros, with the point or exponent; `plus`
comes before exponents that are not negative. -/
def realDigits (plus : List Char) (d : Decimal) : List Char :=
  let ds := d.digitChars
  let pointAt := (ds.length : Int) + d.exponent
  if 0 ≤ d.exponent ∧ pointAt ≤ 16 then d.positional ++ ['.', '0']
  else if -5 < pointAt ∧ pointAt ≤ 16 then d.positional
  else
    let sign := if 0 < pointAt then plus else []
    let exponent := 'e' :: sign ++ (toString (pointAt - 1)).toList
    match ds with
    | first :: second :: rest => first :: '.' :: second :: rest ++ exponent
    | _ => ds ++ exponent

/-- A real number, with what comes before exponents that are not negative; numbers that are not
finite have no form of their own and are written `null`. -/
def realWith (plus : List Char) : Number → String
  | .nan => "null"
  | .signed negative rank _ =>
    if rank = Number.infinityRank then "null"
    else
      let digits := realDigits plus (Number.shortest (· % 2 == 1) rank)
      .ofList (if negative then '-' :: digits else digits)

/-- A real number. -/
def realText : Number → String := realWith ['+']

mutual

/-- A value without blanks. -/
def compact : Json → String
  | null => "null"
  | bool b => if b then "true" else "false"
  | integer n => toString n
  | real x => realText x
  | text s => stringText s
  | list items => "[" ++ compactItems items ++ "]"
  | record entries => "\x7b" ++ compactEntries entries ++ "\x7d"

/-- The items of a list, with commas between. -/
def compactItems : List Json → String
  | [] => ""
  | [v] => compact v
  | v :: w :: rest => compact v ++ "," ++ compactItems (w :: rest)

/-- The entries of a record, with commas between. -/
def compactEntries : List (String × Json) → String
  | [] => ""
  | [(k, v)] => stringText k ++ ":" ++ compact v
  | (k, v) :: e :: rest => stringText k ++ ":" ++ compact v ++ "," ++ compactEntries (e :: rest)

end

/-- A line break and the indentation of a nesting depth. -/
def newline (depth : Nat) : String := "\n" ++ String.ofList (List.replicate (2 * depth) ' ')

mutual

/-- A value with one item to a line, at a nesting depth; empty lists and records stay closed. -/
def prettyAt (depth : Nat) : Json → String
  | null => "null"
  | bool b => if b then "true" else "false"
  | integer n => toString n
  | real x => realText x
  | text s => stringText s
  | list [] => "[]"
  | list (v :: rest) =>
    "[" ++ newline (depth + 1) ++ prettyAt (depth + 1) v ++ prettyItems (depth + 1) rest
      ++ newline depth ++ "]"
  | record [] => "\x7b\x7d"
  | record ((k, v) :: rest) =>
    "\x7b" ++ newline (depth + 1) ++ stringText k ++ ": " ++ prettyAt (depth + 1) v
      ++ prettyEntries (depth + 1) rest ++ newline depth ++ "\x7d"

/-- The items after the first, each after a comma and on a line of its own. -/
def prettyItems (depth : Nat) : List Json → String
  | [] => ""
  | v :: rest => "," ++ newline depth ++ prettyAt depth v ++ prettyItems depth rest

/-- The entries after the first, each after a comma and on a line of its own. -/
def prettyEntries (depth : Nat) : List (String × Json) → String
  | [] => ""
  | (k, v) :: rest =>
    "," ++ newline depth ++ stringText k ++ ": " ++ prettyAt depth v ++ prettyEntries depth rest

end

/-- A value with one item to a line, indented by two spaces. -/
def pretty (v : Json) : String := prettyAt 0 v

end RadarConform.Json
