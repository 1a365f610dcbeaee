import RadarConform.Yaml.Scalar.Gap

/-!
# Quoted scalars

Between single quotes, a quote is written twice and nothing else is special.  Between double quotes,
a backslash begins an escape, which stands for one character or joins two lines.

* `readSingleQuoted`, `readDoubleQuoted`: the scalar after an opening quote.
-/

namespace RadarConform.Yaml

/-- A word inside quotes: its text, whether a line break after it does not count, and the place
after it. -/
structure QuotedWord where
  text : List Char
  joined : Bool
  after : Cursor

/-- The word inside single quotes at a place, with the text before it in reverse. -/
def singleQuotedWord (before : List Char) (p : Cursor) : QuotedWord :=
  match _h : p.rest with
  | [] => { text := before.reverse, joined := false, after := p }
  | c :: cs =>
    if c == '\'' && cs.head? == some '\'' then singleQuotedWord ('\'' :: before) (p.advance 2)
    else if c == '\'' || endsWord (some c) then
      { text := before.reverse, joined := false, after := p }
    else singleQuotedWord (c :: before) (p.advance 1)
termination_by p.rest.length
decreasing_by all_goals exact Cursor.length_advance_lt (Nat.succ_pos _) (by simp [_h])

/-- The character that a letter stands for after a backslash. -/
def escapedChar? : Char → Option Char
  | '0' => some '\x00'
  | 'a' => some '\x07'
  | 'b' => some '\x08'
  | 't' | '\t' => some '\t'
  | 'n' => some '\n'
  | 'v' => some '\x0b'
  | 'f' => some '\x0c'
  | 'r' => some '\r'
  | 'e' => some '\x1b'
  | ' ' => some ' '
  | '"' => some '"'
  | '/' => some '/'
  | '\\' => some '\\'
  | 'N' => some '\u0085'
  | '_' => some '\u00a0'
  | 'L' => some '\u2028'
  | 'P' => some '\u2029'
  | _ => none

/-- The number of hexadecimal digits that follow a letter after a backslash. -/
def escapeWidth? : Char → Option Nat
  | 'x' => some 2
  | 'u' => some 4
  | 'U' => some 8
  | _ => none

/-- The value of a hexadecimal digit. -/
def hexDigit? (c : Char) : Option Nat :=
  if '0' ≤ c && c ≤ '9' then some (c.toNat - '0'.toNat)
  else if 'a' ≤ c && c ≤ 'f' then some (c.toNat - 'a'.toNat + 10)
  else if 'A' ≤ c && c ≤ 'F' then some (c.toNat - 'A'.toNat + 10)
  else none

/-- The value of hexadecimal digits. -/
def hexValue? (cs : List Char) : Option Nat :=
  cs.foldlM (fun n c => (hexDigit? c).map (16 * n + ·)) 0

/-- The character of a code point, if there is one. -/
def codePoint? (n : Nat) : Option Char := if n.isValidChar then some (.ofNat n) else none

/-- The character that an escape stands for, and the length of the escape; the text starts after
the backslash. -/
def readEscape? : List Char → Option (Char × Nat)
  | [] => none
  | c :: cs =>
    match escapedChar? c, escapeWidth? c with
    | some e, _ => some (e, 1)
    | none, some width =>
      if cs.length < width then none
      else do
        let e ← codePoint? (← hexValue? (cs.take width))
        some (e, width + 1)
    | none, none => none

/-- The word inside double quotes at a place, with the text before it in reverse. -/
def doubleQuotedWord? (before : List Char) (p : Cursor) : Option QuotedWord :=
  match _h : p.rest with
  | [] => some { text := before.reverse, joined := false, after := p }
  | '\\' :: cs =>
    if cs.head?.any isBreak then
      some { text := before.reverse, joined := true, after := (p.advance 1).skipBreak }
    else
      match readEscape? cs with
      | none => none
      | some (e, length) => doubleQuotedWord? (e :: before) (p.advance (length + 1))
  | c :: _ =>
    if c == '"' || endsWord (some c) then
      some { text := before.reverse, joined := false, after := p }
    else doubleQuotedWord? (c :: before) (p.advance 1)
termination_by p.rest.length
decreasing_by all_goals exact Cursor.length_advance_lt (Nat.succ_pos _) (by simp [_h])

/-- The text of a quoted scalar up to the closing quote, and the place after that, from the start
of a word and after the text before it. -/
def readQuotedFrom (quote : Char) (word? : Cursor → Option QuotedWord) (text : List Char)
    (p : Cursor) : Option (List Char × Cursor) :=
  if p.atDocumentMark then none
  else
    match word? p with
    | none => none
    | some word =>
      let text := text ++ word.text
      if word.after.isAt quote then some (text, word.after.advance 1)
      else
        match Gap.read 0 (if word.joined then .joined else .empty) word.after with
        | none => none
        | some (gap, q) =>
          if q.rest.length < p.rest.length then readQuotedFrom quote word? (text ++ gap.text) q
          else none
termination_by p.rest.length

/-- The text of a scalar in single quotes and the place after it, from the place after the opening
quote. -/
def readSingleQuoted (p : Cursor) : Option (List Char × Cursor) :=
  readQuotedFrom '\'' (some <| singleQuotedWord [] ·) [] p

/-- The text of a scalar in double quotes and the place after it, from the place after the opening
quote. -/
def readDoubleQuoted (p : Cursor) : Option (List Char × Cursor) :=
  readQuotedFrom '"' (doubleQuotedWord? []) [] p

end RadarConform.Yaml
