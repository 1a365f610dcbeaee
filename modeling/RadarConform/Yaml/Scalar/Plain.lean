import RadarConform.Yaml.Scalar.Gap

/-!
# Plain scalars

A plain scalar has no marks around it.  It ends before a colon with a blank after it, before a
comment, before a line that is not indented enough, and inside flow collections before their
marks.

* `plainWord?`: the word at the start of a text.
* `readPlain`: the scalar at a place.
-/

namespace RadarConform.Yaml

/-- The marks that end a plain scalar inside a flow collection. -/
def flowMarks : List Char := [',', '[', ']', '\x7b', '\x7d']

/-- The word of a plain scalar at the start of a text.  Inside a flow collection a colon right
before a mark is an error. -/
def plainWord? (inFlow : Bool) : List Char → Option (List Char)
  | [] => some []
  | c :: cs =>
    if endsWord (some c) then some []
    else if inFlow && c == ':' && cs.head?.any (fun d => d == '?' || flowMarks.contains d) then none
    else if c == ':' && endsWord cs.head? then some []
    else if inFlow && flowMarks.contains c then some []
    else (plainWord? inFlow cs).map (c :: ·)

/-- A scalar that was read: its text, whether line breaks follow it, and the place after it. -/
structure Plain where
  text : List Char
  broken : Bool
  after : Cursor

/-- The rest of a plain scalar from the start of a word, after the text and the gap before it. -/
def readPlainFrom (inFlow : Bool) (margin : Nat) (text : List Char) (gap : Gap) (p : Cursor) :
    Option Plain :=
  if p.atDocumentMark || p.isAt '#' then some { text, broken := gap.broken, after := p }
  else
    match plainWord? inFlow p.rest with
    | none => none
    | some [] => some { text, broken := gap.broken, after := p }
    | some word =>
      let text := text ++ gap.text ++ word
      match Gap.read margin .empty (p.advance word.length) with
      | none => none
      | some (gap, q) =>
        if !inFlow && q.column < margin then some { text, broken := gap.broken, after := q }
        else if q.rest.length < p.rest.length then readPlainFrom inFlow margin text gap q
        else none
termination_by p.rest.length

/-- The plain scalar at a place, the lines of which must stay right of the margin. -/
def readPlain (inFlow : Bool) (margin : Nat) (p : Cursor) : Option Plain :=
  readPlainFrom inFlow margin [] .empty p

end RadarConform.Yaml
