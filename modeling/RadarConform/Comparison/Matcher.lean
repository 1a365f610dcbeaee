import RadarConform.Pattern.Automaton
import RadarConform.Pattern.Search
import RadarConform.Rule

/-!
# Matching locations

The segments and the attribute name of a rule's location may be patterns.  A part that holds one
of the characters with which patterns are made is read as a pattern for a whole segment; any other
part stands for itself, so a point in it is a point.

* `SegmentMatcher`, `LocationMatcher`: compiled parts and locations.
* `LocationMatcher.compile`: reads the location of a rule.
* `LocationMatcher.accepts`: whether a node's location is described.
-/

namespace RadarConform

/-- A part of a location that is no pattern. -/
structure SegmentFault where
  location : Location
  segment : String
deriving DecidableEq

/-- A compiled segment or attribute name. -/
inductive SegmentMatcher where
  | literal (s : String)
  | pattern (p : Pattern)

namespace SegmentMatcher

/-- The characters that make a part of a location a pattern. -/
def patternChars : List Char :=
  ['[', ']', '*', '+', '?', '(', ')', '\x7b', '\x7d', '|', '\\', '^', '$']

/-- Whether a part of a location is a pattern. -/
def isPatternText (s : String) : Bool := s.toList.any patternChars.contains

/-- Compiles a part of a location. -/
def compile (location : Location) (s : String) : Except SegmentFault SegmentMatcher :=
  if isPatternText s then
    match Pattern.compiled? s with
    | some p => .ok (.pattern p)
    | none => .error { location, segment := s }
  else .ok (.literal s)

/-- Whether a part of a node's location is described. -/
def accepts : SegmentMatcher → String → Bool
  | literal s, t => s == t
  | pattern p, t => p.found t.toList

/-- Whether only an equal text is described. -/
def isLiteral : SegmentMatcher → Bool
  | literal _ => true
  | pattern _ => false

end SegmentMatcher

/-- A compiled location. -/
structure LocationMatcher where
  location : Location
  segments : List SegmentMatcher
  attributeName : Option SegmentMatcher

namespace LocationMatcher

/-- Compiles segments, up to the first that is no pattern. -/
def compileAll (location : Location) : List String → Except SegmentFault (List SegmentMatcher)
  | [] => .ok []
  | s :: rest => do
    let first ← SegmentMatcher.compile location s
    return first :: (← compileAll location rest)

/-- Compiles the attribute part of a location. -/
def compileName (location : Location) : Option String → Except SegmentFault (Option SegmentMatcher)
  | none => .ok none
  | some name => (SegmentMatcher.compile location name).map some

/-- Compiles the location of a rule: the segments first, then the attribute name. -/
def compile (location : Location) : Except SegmentFault LocationMatcher := do
  let segments ← compileAll location location.segments
  let attributeName ← compileName location location.attributeName
  return { location, segments, attributeName }

/-- Whether the matcher has no pattern in it, so that it describes one location only. -/
def isLiteral (m : LocationMatcher) : Bool :=
  m.segments.all (·.isLiteral) && m.attributeName.all (·.isLiteral)

/-- Whether segments are described one by one; their number must be equal. -/
def acceptsAll : List SegmentMatcher → List String → Bool
  | [], [] => true
  | m :: ms, s :: ss => m.accepts s && acceptsAll ms ss
  | _, _ => false

/-- Whether the attribute part of a location is described. -/
def acceptsName : Option SegmentMatcher → Option String → Bool
  | none, none => true
  | some m, some name => m.accepts name
  | _, _ => false

/-- Whether a node's location is described. -/
def accepts (m : LocationMatcher) (l : Location) : Bool :=
  acceptsName m.attributeName l.attributeName && acceptsAll m.segments l.segments

end LocationMatcher

end RadarConform
