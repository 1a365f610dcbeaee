import RadarConform.Pattern.ByteAutomaton
import RadarConform.Pattern.LiteralTree
import RadarConform.Pattern.Reader
import RadarConform.Pattern.Shape

/-!
# The size of a pattern's automata

A pattern is used only if two automata of it are not too large: one that reads a text forward and
keeps what its groups capture, and one that reads a text backward.

* `Metered.ofShape`: the automaton of a simplified pattern.
* `Pattern.Compilable`: whether both automata stay within the limit.
* `Pattern.compiled?`: the pattern of a text, unless it is none or is too large.
-/

namespace RadarConform

namespace Pattern

namespace Metered

/-- The runs of bytes of shapes that are all literal. -/
def runsOf? : List Shape → Option (List (List UInt8))
  | [] => some []
  | .literal bytes :: rest => (runsOf? rest).map (bytes :: ·)
  | _ => none

mutual

/-- The automaton of a shape. -/
def ofShape (backward : Bool) : Shape → Metered Bool
  | .empty => plain
  | .literal bytes => inSequence (bytes.map fun _ => plain)
  | .set s => set backward s
  | .look _ => plain
  | .times p least most _ =>
    repeated (ofShape backward p) (p.consumes?.getD false) least most
  | .capture _ p =>
    if backward then ofShape backward p
    else inSequence [plain, ofShape backward p, plain]
  | .seq parts =>
    let parts := ofShapes backward parts
    inSequence (if backward then parts.reverse else parts)
  | .alt branches =>
    match runsOf? branches with
    | some runs => literals (if backward then runs.map List.reverse else runs)
    | none => alternatives (ofShapes backward branches)

/-- The automata of shapes. -/
def ofShapes (backward : Bool) : List Shape → List (Metered Bool)
  | [] => []
  | p :: rest => ofShape backward p :: ofShapes backward rest

end

/-- What comes before the automaton when a match may start anywhere: any bytes, as few as possible;
and a single state when it may start at the edge of the text only. -/
def lead (anchored : Bool) : Metered Bool :=
  if anchored then plain
  else anyTimes (oneByte 1) true

/-- The whole automaton of a shape; forward, the whole match is captured. -/
def automaton (backward : Bool) (p : Shape) : Metered Unit := do
  let start ← lead (if backward then p.endsText else p.startsText)
  let last ← if backward then ofShape backward p else ofShape backward (.capture 0 p)
  let _ ← plain
  follow last
  follow start

end Metered

/-- A pattern whose automata stay within the limit. -/
def Compilable (p : Pattern) : Prop :=
  ((Metered.automaton false p.shape).run .zero).isSome
    ∧ ((Metered.automaton true p.shape).run .zero).isSome

instance (p : Pattern) : Decidable p.Compilable :=
  inferInstanceAs (Decidable (_ ∧ _))

/-- The pattern that is meant to span a whole text, if its automata stay within the limit. -/
def compiled? (text : String) : Option Pattern := (whole? text).filter (·.Compilable)

end Pattern

end RadarConform
