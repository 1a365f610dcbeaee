/-!
# Places in a YAML text

In YAML the columns of a text count.  A cursor is a place in a text together with its line and its
column; it moves over one character, over a run of characters of a kind, or over a line break.

* `isBlank`, `isBreak`, `isAllowed`: the kinds of characters.
* `Cursor`: a place, with `Cursor.advance`, `Cursor.takeWhile` and `Cursor.takeBreak`.
-/

namespace RadarConform.Yaml

/-! ## Characters -/

/-- The blanks within a line: space and tab. -/
def isBlank (c : Char) : Bool := c == ' ' || c == '\t'

/-- The characters that end a line. -/
def isBreak (c : Char) : Bool :=
  c == '\n' || c == '\r' || c == '\u0085' || c == '\u2028' || c == '\u2029'

/-- Whether a word ends before what comes next: the end of the text, a blank or a line break. -/
def endsWord : Option Char → Bool
  | none => true
  | some c => isBlank c || isBreak c

/-- Whether a character may stand in a YAML text at all: controls may not, apart from the tab and
the line breaks, and neither may U+FFFE and U+FFFF. -/
def isAllowed (c : Char) : Bool :=
  c == '\t' || c == '\n' || c == '\r' || c == '\u0085' || (' ' ≤ c && c ≤ '~')
    || ('\u00a0' ≤ c && c ≤ '\ufffd') || 0x10000 ≤ c.toNat

/-- The letters of which names are made. -/
def isNameChar (c : Char) : Bool :=
  ('0' ≤ c && c ≤ '9') || ('A' ≤ c && c ≤ 'Z') || ('a' ≤ c && c ≤ 'z') || c == '_' || c == '-'

/-! ## Cursors -/

/-- A place in a text: what follows it, how many bytes of its UTF-8 form come before it, and its
line and column, counted from 0. -/
structure Cursor where
  rest : List Char
  index : Nat
  line : Nat
  column : Nat

namespace Cursor

/-- The start of a text. -/
def start (cs : List Char) : Cursor := { rest := cs, index := 0, line := 0, column := 0 }

/-- The next character. -/
def next? (p : Cursor) : Option Char := p.rest.head?

/-- The character after the next one. -/
def second? (p : Cursor) : Option Char := p.rest[1]?

/-- Whether the next character is the one given. -/
def isAt (p : Cursor) (c : Char) : Bool := p.next? == some c

/-- The number of bytes in some characters. -/
def byteCount (cs : List Char) : Nat := cs.foldl (fun n c => n + c.utf8Size) 0

/-- The place some characters further on the same line. -/
def advance (p : Cursor) (n : Nat) : Cursor :=
  { p with
    rest := p.rest.drop n, index := p.index + byteCount (p.rest.take n), column := p.column + n }

/-- The characters of a kind that follow, and the place after them. -/
def takeWhile (p : Cursor) (test : Char → Bool) : List Char × Cursor :=
  let run := p.rest.takeWhile test
  (run, p.advance run.length)

/-- The place after the characters of a kind that follow. -/
def skipWhile (p : Cursor) (test : Char → Bool) : Cursor := (p.takeWhile test).2

/-- The place at the start of the next line, a number of characters further on. -/
def nextLine (p : Cursor) (n : Nat) : Cursor :=
  { rest := p.rest.drop n, index := p.index + byteCount (p.rest.take n), line := p.line + 1,
    column := 0 }

/-- The line break that follows, as it counts in a text, and the place after it.  Returns, line
feeds and U+0085 count as line feeds, and a return with a line feed after it is one break. -/
def takeBreak (p : Cursor) : List Char × Cursor :=
  match p.rest with
  | '\r' :: '\n' :: _ => (['\n'], p.nextLine 2)
  | c :: _ =>
    if c == '\u2028' || c == '\u2029' then ([c], p.nextLine 1)
    else if isBreak c then (['\n'], p.nextLine 1)
    else ([], p)
  | [] => ([], p)

/-- The place after the line break that follows. -/
def skipBreak (p : Cursor) : Cursor := p.takeBreak.2

/-- Whether a document starts or ends here: three hyphens or points at the start of a line. -/
def atDocumentMark (p : Cursor) : Bool :=
  p.column == 0 && (p.rest.take 3 == ['-', '-', '-'] || p.rest.take 3 == ['.', '.', '.'])
    && endsWord p.rest[3]?

/-- The place after the blanks and the comment at the end of a line; nothing when something else
follows on the line. -/
def lineEnd? (p : Cursor) : Option Cursor :=
  let p := p.skipWhile isBlank
  let p := if p.isAt '#' then p.skipWhile (!isBreak ·) else p
  if p.next?.all isBreak then some p.skipBreak else none

/-- Moving over a character leaves less of the text. -/
theorem length_advance_lt {p : Cursor} {n : Nat} (hn : 0 < n) (h : p.rest ≠ []) :
    (p.advance n).rest.length < p.rest.length := by
  have := List.length_pos_iff.mpr h
  simp only [advance, List.length_drop]
  omega

/-- Moving over a line break leaves less of the text. -/
theorem length_takeBreak_lt {p : Cursor} {c : Char} (h : p.next? = some c) (hc : isBreak c) :
    p.takeBreak.2.rest.length < p.rest.length := by
  rcases p with ⟨_ | ⟨d, ds⟩, index, line, column⟩
  · simp [next?] at h
  · simp only [next?, List.head?_cons, Option.some.injEq] at h
    subst h
    unfold takeBreak
    split
    · simp only [nextLine, List.length_drop, List.length_cons]
      omega
    · rename_i e _ heq
      simp only [List.cons.injEq] at heq
      obtain ⟨rfl, rfl⟩ := heq
      simp only [hc, ↓reduceIte]
      split <;> simp [nextLine]
    · simp_all

end Cursor

end RadarConform.Yaml
