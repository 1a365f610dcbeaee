import RadarConform.Pattern.Basic
import RadarConform.Pattern.Property
import RadarConform.Text.Blank
import RadarConform.Text.Pieces

/-!
# Escapes in patterns

A backslash gives the character after it a meaning: a literal character, a class of characters or
a condition on the position.

* `Flags`: the modes in which a part of a pattern is read.
* `skipBlanks`: what is left of the text of a pattern after blanks and comments, where these do
  not count.
* `Escape`, `readEscape`: what a backslash introduces.
* `literalSet`: the set for a literal character.
-/

namespace RadarConform.Pattern

/-- The modes in which a part of a pattern is read. -/
structure Flags where
  /-- Case does not count. -/
  ignoreCase : Bool
  /-- The line anchors match at every line. -/
  multiLine : Bool
  /-- The point matches line feeds, too. -/
  dotAll : Bool
  /-- Classes hold the characters of all scripts. -/
  unicode : Bool
  /-- Blanks and comments in the pattern do not count. -/
  ignoreBlanks : Bool
  /-- Carriage returns end lines, too. -/
  crlf : Bool
  /-- A repetition is greedy when a question mark follows it, and not otherwise. -/
  swapGreed : Bool
deriving DecidableEq

namespace Flags

/-- The modes at the start of a pattern. -/
def initial : Flags :=
  { ignoreCase := false, multiLine := false, dotAll := false, unicode := true,
    ignoreBlanks := false, crlf := false, swapGreed := false }

/-- The modes with one letter set or cleared; nothing for a letter that is no mode. -/
def assign? (f : Flags) (letter : Char) (value : Bool) : Option Flags :=
  match letter with
  | 'i' => some { f with ignoreCase := value }
  | 'm' => some { f with multiLine := value }
  | 's' => some { f with dotAll := value }
  | 'u' => some { f with unicode := value }
  | 'x' => some { f with ignoreBlanks := value }
  | 'R' => some { f with crlf := value }
  | 'U' => some { f with swapGreed := value }
  | _ => none

end Flags

/-- A text without the blanks and the comments (from `#` to the end of the line) at its start;
`comment` says that the text starts inside a comment. -/
def skipFrom (comment : Bool) : List Char → List Char
  | [] => []
  | c :: cs =>
    if comment then skipFrom (c != '\n') cs
    else if Text.isBlank c then skipFrom false cs
    else if c = '#' then skipFrom true cs
    else c :: cs

/-- What follows the blanks and comments, where these do not count. -/
def skipBlanks (f : Flags) (cs : List Char) : List Char :=
  if f.ignoreBlanks then skipFrom false cs else cs

/-- What a backslash introduces. -/
inductive Escape where
  /-- A literal character; `byte` says that it was written with exactly two hexadecimal digits. -/
  | literal (c : Char) (byte : Bool)
  | set (s : CharSet)
  | look (l : Look)

/-! ## Literal characters -/

/-- The characters that have a meaning of their own in some place of a pattern. -/
def isMeta (c : Char) : Bool := "\\.+*?()|[]\x7b\x7d^$#&-~".toList.contains c

/-- The characters that may stand after a backslash for themselves: those with a meaning of their
own, and all of ASCII but letters, digits and angle brackets. -/
def isEscapable (c : Char) : Bool :=
  isMeta c || (c.toNat < 128 && !c.isAlphanum && c != '<' && c != '>')

/-- The character that a letter after a backslash stands for. -/
def letterEscape? : Char → Option Char
  | 'a' => some '\x07'
  | 'f' => some '\x0c'
  | 't' => some '\t'
  | 'n' => some '\n'
  | 'r' => some '\r'
  | 'v' => some '\x0b'
  | _ => none

/-- The other case of an ASCII letter. -/
def otherCase? (c : Char) : Option Char :=
  if c.isLower then some c.toUpper else if c.isUpper then some c.toLower else none

/-- The set for a literal character: the character, and where case does not count those that equal
it up to case. -/
def literalSet (f : Flags) (c : Char) : CharSet :=
  let others :=
    if !f.ignoreCase then []
    else if f.unicode then Unicode.caseVariants c
    else (otherCase? c).toList
  others.foldl (fun s d => .union s (.single d)) (.single c)

/-! ## Numbers -/

/-- The value of a hexadecimal digit in either case. -/
def hexDigit? (c : Char) : Option Nat :=
  if '0' ≤ c ∧ c ≤ '9' then some (c.toNat - 48)
  else if 'a' ≤ c ∧ c ≤ 'f' then some (c.toNat - 87)
  else if 'A' ≤ c ∧ c ≤ 'F' then some (c.toNat - 55)
  else none

/-- The character of a code point, unless it is a surrogate or beyond the last one. -/
def charOf? (n : Nat) : Option Char := if n.isValidChar then some (Char.ofNat n) else none

/-- A run of exactly `count` hexadecimal digits: their value and what follows. -/
def hexDigits (f : Flags) : (count : Nat) → (value : Nat) → List Char → Option (Nat × List Char)
  | 0, value, cs => some (value, cs)
  | _ + 1, _, [] => none
  | count + 1, value, c :: cs => do
    let d ← hexDigit? c
    hexDigits f count (16 * value + d) (skipBlanks f cs)

/-- The characters up to a closing brace, without the blanks that do not count, and what follows
the brace. -/
def bracedChars (f : Flags) (comment : Bool) : List Char → Option (List Char × List Char)
  | [] => none
  | c :: cs =>
    if comment then bracedChars f (c != '\n') cs
    else if f.ignoreBlanks && Text.isBlank c then bracedChars f false cs
    else if f.ignoreBlanks && c == '#' then bracedChars f true cs
    else if c = '\x7d' then some ([], cs)
    else (bracedChars f false cs).map fun (name, rest) => (c :: name, rest)

/-- The value of a hexadecimal numeral with at least one digit. -/
def hexNumeral? (cs : List Char) : Option Nat :=
  if cs = [] then none
  else cs.foldlM (fun n c => (hexDigit? c).map (16 * n + ·)) 0

/-- A character given by its number: the letter says how many digits there are when they do not
stand between braces. -/
def readHex (f : Flags) (letter : Char) (cs : List Char) : Option (Escape × List Char) := do
  match skipBlanks f cs with
  | [] => none
  | '\x7b' :: rest =>
    let (name, rest) ← bracedChars f false rest
    let c ← charOf? (← hexNumeral? name)
    return (.literal c false, skipBlanks f rest)
  | c :: rest =>
    let count := if letter = 'x' then 2 else if letter = 'u' then 4 else 8
    let (value, rest) ← hexDigits f count 0 (c :: rest)
    let c ← charOf? value
    return (.literal c (letter == 'x'), rest)

/-! ## Classes -/

/-- The set without negation or with it; outside the Unicode mode a negated set would hold
characters that are no text. -/
def negatedIf (f : Flags) (negated : Bool) (s : CharSet) : Option CharSet :=
  if negated then (if f.unicode then some (.compl s) else none) else some s

/-- The set closed under case, where case does not count. -/
def foldedIf (f : Flags) (s : CharSet) : CharSet :=
  if !f.ignoreCase then s
  else if f.unicode then .folded s
  else .inter (.folded s) (.range (Char.ofNat 0) (Char.ofNat 127))

/-- ASCII letters, digits and the underscore. -/
def asciiWord : CharSet :=
  .union (.union (.range 'a' 'z') (.range 'A' 'Z')) (.union (.range '0' '9') (.single '_'))

/-- ASCII white space. -/
def asciiSpace : CharSet := .union (.range '\t' '\r') (.single ' ')

/-- The set of a one-letter class, given in lower case. -/
def letterClass? (f : Flags) : Char → Option CharSet
  | 'd' => some (if f.unicode then .digit else .range '0' '9')
  | 's' => some (if f.unicode then .blank else asciiSpace)
  | 'w' => some (if f.unicode then .word else asciiWord)
  | _ => none

/-- The set of a property as it is written between braces: a name, or a name and a value with an
equals sign, a colon or an inequality sign between them; the last negates. -/
def namedSet? (name : List Char) : Option (CharSet × Bool) :=
  match Text.cutAt ['!', '='] name with
  | some (property, value) => (propertyValue? property value).map (·, true)
  | none =>
    match Text.cutOnce (· == ':') name with
    | some (property, value) => (propertyValue? property value).map (·, false)
    | none =>
      match Text.cutOnce (· == '=') name with
      | some (property, value) => (propertyValue? property value).map (·, false)
      | none => (property? name).map (·, false)

/-- A property class: the name is one character or stands between braces. -/
def readProperty (f : Flags) (negated : Bool) (cs : List Char) :
    Option (Escape × List Char) := do
  if !f.unicode then none
  else
    match skipBlanks f cs with
    | [] => none
    | '\x7b' :: rest =>
      let (name, rest) ← bracedChars f false rest
      let (s, inequality) ← namedSet? name
      let s ← negatedIf f (negated != inequality) (foldedIf f s)
      return (.set s, rest)
    | c :: rest =>
      if c = '\\' then none
      else
        let s ← negatedIf f negated (foldedIf f (← property? [c]))
        return (.set s, skipBlanks f rest)

/-! ## Boundaries of words -/

/-- The characters that the names of special word boundaries are made of. -/
def isBoundaryName (c : Char) : Bool := c.isAlpha || c == '-'

/-- The condition that a name of a special word boundary stands for. -/
def boundary? (name : List Char) : Option WordLook :=
  match String.ofList name with
  | "start" => some .start
  | "end" => some .finish
  | "start-half" => some .startHalf
  | "end-half" => some .finishHalf
  | _ => none

/-- A word boundary.  A brace after it that is followed by a letter or a hyphen holds the name of
a special boundary; any other brace is left for a repetition. -/
def readBoundary (f : Flags) (cs : List Char) : Option (Escape × List Char) := do
  let plain : Escape × List Char := (.look (.word .boundary f.unicode), cs)
  match cs with
  | '\x7b' :: rest =>
    match skipBlanks f rest with
    | [] => none
    | c :: inside =>
      if isBoundaryName c then
        let (name, rest) ← bracedChars f false (c :: inside)
        if name.all isBoundaryName then
          return (.look (.word (← boundary? name) f.unicode), rest)
        else none
      else return plain
  | _ => return plain

/-- Reads what a backslash introduces: the text starts after the backslash. -/
def readEscape (f : Flags) : List Char → Option (Escape × List Char)
  | [] => none
  | c :: cs =>
    if c = 'x' ∨ c = 'u' ∨ c = 'U' then readHex f c cs
    else if c = 'p' ∨ c = 'P' then readProperty f (c = 'P') cs
    else if isEscapable c then some (.literal c false, cs)
    else
      match letterClass? f c.toLower with
      | some s => (negatedIf f c.isUpper s).map fun s => (.set s, cs)
      | none =>
        match letterEscape? c with
        | some d => some (.literal d false, cs)
        | none =>
          match c with
          | 'A' => some (.look .textStart, cs)
          | 'z' => some (.look .textEnd, cs)
          | 'b' => readBoundary f cs
          | 'B' => some (.look (.word .noBoundary f.unicode), cs)
          | '<' => some (.look (.word .start f.unicode), cs)
          | '>' => some (.look (.word .finish f.unicode), cs)
          | _ => none

end RadarConform.Pattern
