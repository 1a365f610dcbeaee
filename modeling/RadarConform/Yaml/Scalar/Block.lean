import RadarConform.Yaml.Cursor

/-!
# Block scalars

A block scalar stands on the lines below its header and right of the margin.  The header says
whether lines are folded, how far the text is indented and what happens to the line breaks at its
end.

* `Chomping`, `BlockHeader`: what a header says.
* `readBlock`: the scalar at a place after its first mark.
-/

namespace RadarConform.Yaml

/-- What happens to the line breaks at the end of a block scalar: none stays, one stays, or all
stay. -/
inductive Chomping where
  | strip
  | clip
  | keep
deriving DecidableEq

/-- What the header of a block scalar says; without an indentation, the text itself shows it. -/
structure BlockHeader where
  chomping : Chomping
  indentation : Option Nat

namespace BlockHeader

/-- The mark for what happens at the end. -/
def chomping? : Option Char → Option Chomping
  | some '+' => some .keep
  | some '-' => some .strip
  | _ => none

/-- The digit for the indentation. -/
def indentation? : Option Char → Option Nat
  | some c => if '0' ≤ c && c ≤ '9' then some (c.toNat - '0'.toNat) else none
  | none => none

/-- Reads a header: the two marks in any order, each of which may be missing. -/
def read (p : Cursor) : Option (BlockHeader × Cursor) :=
  let (header, length) : BlockHeader × Nat :=
    match chomping? p.next?, indentation? p.next? with
    | some chomping, _ =>
      match indentation? p.second? with
      | some n => ({ chomping, indentation := some n }, 2)
      | none => ({ chomping, indentation := none }, 1)
    | none, some n =>
      match chomping? p.second? with
      | some chomping => ({ chomping, indentation := some n }, 2)
      | none => ({ chomping := .clip, indentation := some n }, 1)
    | none, none => ({ chomping := .clip, indentation := none }, 0)
  if header.indentation = some 0 then none
  else (p.advance length).lineEnd?.map (header, ·)

end BlockHeader

/-- The empty lines at a place: their breaks, the widest indentation in them, and the place in the
first line that is not empty. -/
structure EmptyLines where
  breaks : List Char
  widest : Nat
  after : Cursor

/-- Reads empty lines, after breaks that were read before.  Up to the indentation, or as far as
there are spaces while it is not known, only spaces may come before the text of a line. -/
def readEmptyLines (indentation : Option Nat) (breaks : List Char) (widest : Nat) (p : Cursor) :
    Option EmptyLines :=
  let spaces := (p.rest.takeWhile (· == ' ')).length
  let q := p.advance (match indentation with
    | some n => min spaces (n - p.column)
    | none => spaces)
  let widest := max widest q.column
  if q.isAt '\t' && indentation.all (q.column < ·) then none
  else if q.next?.any isBreak then
    if q.takeBreak.2.rest.length < p.rest.length then
      readEmptyLines indentation (breaks ++ q.takeBreak.1) widest q.takeBreak.2
    else none
  else some { breaks, widest, after := q }
termination_by p.rest.length

/-- The text of a block scalar up to a line: the text itself, the break after it, the breaks of the
empty lines after that, and whether its last line starts with a blank. -/
structure BlockText where
  text : List Char
  lineBreak : List Char
  emptyLines : List Char
  blankStart : Bool

namespace BlockText

/-- What comes between the text and a line after it.  Folding replaces the break between two lines
that do not start with a blank: by a space, or by nothing when there are empty lines between. -/
def gap (t : BlockText) (folded blankStart : Bool) : List Char :=
  if folded && t.lineBreak == ['\n'] && !t.blankStart && !blankStart then
    if t.emptyLines = [] then [' '] else t.emptyLines
  else t.lineBreak ++ t.emptyLines

/-- The text with a line more. -/
def add (t : BlockText) (folded : Bool) (line lineBreak emptyLines : List Char) : BlockText :=
  let blankStart := line.head?.any isBlank
  { text := t.text ++ t.gap folded blankStart ++ line, lineBreak, emptyLines, blankStart }

/-- The text with what stays of the breaks at its end. -/
def chomped (t : BlockText) : Chomping → List Char
  | .strip => t.text
  | .clip => t.text ++ t.lineBreak
  | .keep => t.text ++ t.lineBreak ++ t.emptyLines

end BlockText

/-- Reads the lines of a block scalar that have the indentation. -/
def readBlockLines (folded : Bool) (indentation : Nat) (t : BlockText) (p : Cursor) :
    Option (BlockText × Cursor) :=
  if p.column = indentation ∧ p.rest ≠ [] then
    let (line, q) := p.takeWhile (!isBreak ·)
    let (lineBreak, q) := q.takeBreak
    match readEmptyLines (some indentation) [] 0 q with
    | none => none
    | some lines =>
      if lines.after.rest.length < p.rest.length then
        readBlockLines folded indentation (t.add folded line lineBreak lines.breaks) lines.after
      else none
  else some (t, p)
termination_by p.rest.length

/-- The text of a block scalar and the place after it, from the place after its first mark.  The
indentation that the header gives counts from the column before the margin. -/
def readBlock (folded : Bool) (margin : Nat) (p : Cursor) : Option (List Char × Cursor) := do
  let (header, p) ← BlockHeader.read p
  let declared := header.indentation.map (margin - 1 + ·)
  let lines ← readEmptyLines declared [] 0 p
  let indentation := declared.getD (max lines.widest (max margin 1))
  let start : BlockText :=
    { text := [], lineBreak := [], emptyLines := lines.breaks, blankStart := false }
  let (t, p) ← readBlockLines folded indentation start lines.after
  return (t.chomped header.chomping, p)

end RadarConform.Yaml
