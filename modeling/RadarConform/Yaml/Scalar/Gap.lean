import RadarConform.Yaml.Cursor

/-!
# Gaps between words

The words of a scalar that spans several lines are separated by gaps of blanks and line breaks.  A
gap within a line counts as it stands.  Of a gap with line breaks, the blanks do not count: a single
break counts as a space, and of several breaks the first does not count.

* `Gap`: a gap.
* `Gap.text`: what it counts as.
* `Gap.read`: the gap at a place.
-/

namespace RadarConform.Yaml

/-- A gap between words: the blanks before the first line break, if there is one, that break, and
those after it. -/
structure Gap where
  blanks : List Char
  broken : Bool
  firstBreak : List Char
  moreBreaks : List Char

namespace Gap

/-- The gap with nothing in it. -/
def empty : Gap := { blanks := [], broken := false, firstBreak := [], moreBreaks := [] }

/-- The gap after a line break that does not count. -/
def joined : Gap := { empty with broken := true }

/-- A gap with one more blank. -/
def addBlank (g : Gap) (c : Char) : Gap :=
  if g.broken then g else { g with blanks := g.blanks ++ [c] }

/-- A gap with one more line break. -/
def addBreak (g : Gap) (b : List Char) : Gap :=
  if g.broken then { g with moreBreaks := g.moreBreaks ++ b }
  else { g with blanks := [], broken := true, firstBreak := b }

/-- What a gap counts as. -/
def text (g : Gap) : List Char :=
  if !g.broken then g.blanks
  else if g.firstBreak = ['\n'] then
    if g.moreBreaks = [] then [' '] else g.moreBreaks
  else g.firstBreak ++ g.moreBreaks

/-- The gap at a place, added to what comes before it.  After a line break, a tab may not stand in
the columns of the margin. -/
def read (margin : Nat) (g : Gap) (p : Cursor) : Option (Gap × Cursor) :=
  match _h : p.next? with
  | none => some (g, p)
  | some c =>
    if isBlank c then
      if g.broken && p.column < margin && c == '\t' then none
      else read margin (g.addBlank c) (p.advance 1)
    else if _hc : isBreak c then read margin (g.addBreak p.takeBreak.1) p.takeBreak.2
    else some (g, p)
termination_by p.rest.length
decreasing_by
  · apply Cursor.length_advance_lt Nat.one_pos
    intro hp
    simp [Cursor.next?, hp] at _h
  · exact Cursor.length_takeBreak_lt _h _hc

end Gap

end RadarConform.Yaml
