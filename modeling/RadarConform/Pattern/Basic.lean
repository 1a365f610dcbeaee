import RadarConform.Pattern.CharSet

/-!
# Patterns

A pattern describes which parts of a text it spans.  Some parts of a pattern consume nothing and
only look at the characters on either side, so what a pattern spans depends on the text around it,
and the meaning is given on positions in a whole text.

* `Look`: the conditions on a position, with `Look.allows`.
* `Pattern`: the patterns.
* `Pattern.Spans`: the meaning, as a relation between two positions of a text.
-/

namespace RadarConform

namespace Pattern

/-- A condition on the boundary between words. -/
inductive WordLook where
  | boundary
  | noBoundary
  | start
  | finish
  | startHalf
  | finishHalf
deriving DecidableEq

/-- A condition on a position in a text, which looks at the characters before and after it. -/
inductive Look where
  | textStart
  | textEnd
  /-- The start of a line; with `crlf`, carriage returns end lines too. -/
  | lineStart (crlf : Bool)
  | lineEnd (crlf : Bool)
  /-- A boundary of words; with `unicode`, words hold the letters of all scripts. -/
  | word (look : WordLook) (unicode : Bool)
deriving DecidableEq

/-- Whether there is a word character in a place that may be beyond the text. -/
def inWord (unicode : Bool) : Option Char → Bool
  | none => false
  | some c => if unicode then Unicode.isWordCharacter c else Unicode.isAsciiWord c

/-- Whether a condition allows the position between two characters, `none` standing for the end of
the text on that side.  Between a carriage return and a line feed no line ends. -/
def Look.allows (before after : Option Char) : Look → Bool
  | .textStart => before == none
  | .textEnd => after == none
  | .lineStart false => before == none || before == some '\n'
  | .lineStart true =>
    before == none || before == some '\n' || (before == some '\r' && after != some '\n')
  | .lineEnd false => after == none || after == some '\n'
  | .lineEnd true =>
    after == none || after == some '\r' || (after == some '\n' && before != some '\r')
  | .word look unicode =>
    let b := inWord unicode before
    let a := inWord unicode after
    match look with
    | .boundary => b != a
    | .noBoundary => b == a
    | .start => !b && a
    | .finish => b && !a
    | .startHalf => !b
    | .finishHalf => !a

end Pattern

/-- A pattern. -/
inductive Pattern where
  | empty
  | one (s : Pattern.CharSet)
  | look (l : Pattern.Look)
  | seq (p q : Pattern)
  | alt (p q : Pattern)
  /-- At least `least` and, if there is a bound, at most `most` times; a greedy repetition prefers
  many, which does not change what it can span. -/
  | times (p : Pattern) (least : Nat) (most : Option Nat) (greedy : Bool)
  /-- A group in parentheses; one that captures has a number. -/
  | group (number : Option Nat) (p : Pattern)

namespace Pattern

/-- The character before a position. -/
def before (w : List Char) (i : Nat) : Option Char := if i = 0 then none else w[i - 1]?

/-- The character after a position. -/
def after (w : List Char) (i : Nat) : Option Char := w[i]?

/-- **The meaning of patterns.**  `Spans w p i j` says that in the text `w` the pattern `p` can
lead from position `i` to position `j`. -/
inductive Spans (w : List Char) : Pattern → Nat → Nat → Prop
  | empty {i} : i ≤ w.length → Spans w .empty i i
  | one {s c i} : w[i]? = some c → s.contains c = true → Spans w (.one s) i (i + 1)
  | look {l i} : i ≤ w.length → l.allows (before w i) (after w i) = true → Spans w (.look l) i i
  | seq {p q i j k} : Spans w p i j → Spans w q j k → Spans w (.seq p q) i k
  | altLeft {p q i j} : Spans w p i j → Spans w (.alt p q) i j
  | altRight {p q i j} : Spans w q i j → Spans w (.alt p q) i j
  | timesDone {p most greedy i} : i ≤ w.length → Spans w (.times p 0 most greedy) i i
  | timesMore {p least most greedy i j k} : most ≠ some 0 → Spans w p i j →
      Spans w (.times p (least - 1) (most.map (· - 1)) greedy) j k →
      Spans w (.times p least most greedy) i k
  | group {number p i j} : Spans w p i j → Spans w (.group number p) i j

/-- A pattern is found in a text when it spans some part of it. -/
def FoundIn (p : Pattern) (w : List Char) : Prop := ∃ i j, Spans w p i j

/-- A pattern fits a text when it spans the whole of it. -/
def Fits (p : Pattern) (w : List Char) : Prop := Spans w p 0 w.length

end Pattern

end RadarConform
