import RadarConform.Pattern.Basic

/-!
# Shapes of patterns

Before a pattern is made into an automaton it is simplified, and the simplified form decides how
much memory the automaton takes.  In it, characters one after the other make one run of bytes;
sequences and alternatives do not lie directly inside others of their kind; alternatives of single
characters or of sets are one set; and a beginning that all alternatives share stands before them.

* `Shape`: the simplified forms.
* `Shape.concat`, `Shape.alternation`, `Shape.repetition`: the simplifications.
* `Pattern.shape`: the simplified form of a pattern.
-/

namespace RadarConform

namespace Pattern

/-- The simplified form of a pattern. -/
inductive Shape where
  | empty
  /-- A run of bytes: some characters in UTF-8. -/
  | literal (bytes : List UInt8)
  /-- A set that has not exactly one character. -/
  | set (s : CharSet)
  | look (l : Look)
  | times (p : Shape) (least : Nat) (most : Option Nat) (greedy : Bool)
  | capture (number : Nat) (p : Shape)
  | seq (parts : List Shape)
  | alt (branches : List Shape)

namespace Shape

/-! ## Equality -/

mutual

/-- Whether two shapes are equal. -/
def same : Shape → Shape → Bool
  | empty, empty => true
  | literal bs, literal cs => bs == cs
  | set s, set t => s == t
  | look l, look k => l == k
  | times p m n g, times q k l h => m == k && n == l && g == h && same p q
  | capture i p, capture j q => i == j && same p q
  | seq ps, seq qs => sameAll ps qs
  | alt ps, alt qs => sameAll ps qs
  | _, _ => false

/-- Whether two lists of shapes are equal. -/
def sameAll : List Shape → List Shape → Bool
  | [], [] => true
  | p :: ps, q :: qs => same p q && sameAll ps qs
  | _, _ => false

end

/-! ## Size -/

mutual

/-- The number of parts, parts of parts and so on of a shape, itself included. -/
def partCount : Shape → Nat
  | times p _ _ _ => partCount p + 1
  | capture _ p => partCount p + 1
  | seq parts => partCountAll parts + 1
  | alt branches => partCountAll branches + 1
  | _ => 1

/-- The number of parts of some shapes. -/
def partCountAll : List Shape → Nat
  | [] => 0
  | p :: rest => partCount p + partCountAll rest

end

/-! ## What a shape can span -/

mutual

/-- Whether a shape spans nothing but the empty text. -/
def onlyEmpty : Shape → Bool
  | empty => true
  | literal _ => false
  | set _ => false
  | look _ => true
  | times p _ _ _ => onlyEmpty p
  | capture _ p => onlyEmpty p
  | seq parts => allOnlyEmpty parts
  | alt branches => allOnlyEmpty branches

/-- Whether shapes span nothing but the empty text. -/
def allOnlyEmpty : List Shape → Bool
  | [] => true
  | p :: rest => onlyEmpty p && allOnlyEmpty rest

end

mutual

/-- Whether all that a shape spans is more than the empty text; nothing when a part of it that has
to be spanned spans nothing at all. -/
def consumes? : Shape → Option Bool
  | empty => some false
  | literal _ => some true
  | set s => if s.ranges.isEmpty then none else some true
  | look _ => some false
  | times p least _ _ => (consumes? p).map (· && 0 < least)
  | capture _ p => consumes? p
  | seq parts => someConsume? parts
  | alt branches => allConsume? branches

/-- Whether one of some parts consumes something. -/
def someConsume? : List Shape → Option Bool
  | [] => some false
  | p :: rest => do
    let first ← consumes? p
    return first || (← someConsume? rest)

/-- Whether all of some branches consume something. -/
def allConsume? : List Shape → Option Bool
  | [] => some true
  | p :: rest => do
    let first ← consumes? p
    return first && (← allConsume? rest)

end

mutual

/-- Whether a shape spans texts at the start of the whole text only, as the looks at its beginning
tell. -/
def startsText : Shape → Bool
  | look l => l == .textStart
  | times p least _ _ => 0 < least && startsText p
  | capture _ p => startsText p
  | seq parts => someStartsText parts
  | alt branches => allStartText branches
  | _ => false

/-- Whether one of the parts up to the first that can consume something starts the text. -/
def someStartsText : List Shape → Bool
  | [] => false
  | p :: rest => startsText p || (onlyEmpty p && someStartsText rest)

/-- Whether all branches start the text. -/
def allStartText : List Shape → Bool
  | [] => true
  | p :: rest => startsText p && allStartText rest

end

mutual

/-- Whether a shape spans texts at the end of the whole text only, as the looks at its end tell. -/
def endsText : Shape → Bool
  | look l => l == .textEnd
  | times p least _ _ => 0 < least && endsText p
  | capture _ p => endsText p
  | seq parts => someEndsText parts
  | alt branches => allEndText branches
  | _ => false

/-- Whether one of the parts from the last that can consume something on ends the text. -/
def someEndsText : List Shape → Bool
  | [] => false
  | p :: rest => someEndsText rest || (allOnlyEmpty rest && endsText p)

/-- Whether all branches end the text. -/
def allEndText : List Shape → Bool
  | [] => true
  | p :: rest => endsText p && allEndText rest

end

/-! ## Simplification -/

/-- The shape of a set: a set of one character is the run of its bytes. -/
def ofSet (s : CharSet) : Shape :=
  match s.ranges with
  | [(low, high)] =>
    if low = high then literal (String.utf8EncodeChar (Char.ofNat low)) else set s
  | _ => set s

/-- A shape repeated.  What spans only the empty text is repeated once at most, and what is to come
exactly once is not repeated. -/
def repetition (p : Shape) (least : Nat) (most : Option Nat) (greedy : Bool) : Shape :=
  let (least, most) :=
    if onlyEmpty p then (min least 1, some (most.elim 1 (min · 1))) else (least, most)
  if least = 0 ∧ most = some 0 then empty
  else if least = 1 ∧ most = some 1 then p
  else times p least most greedy

/-- The parts of a shape in a sequence. -/
def seqParts : Shape → List Shape
  | empty => []
  | seq parts => parts
  | p => [p]

/-- Parts with the runs of bytes put together that stand next to one another; `run` holds the bytes
just before the parts, the last first. -/
def joinRuns (run : List UInt8) : List Shape → List Shape
  | [] => if run.isEmpty then [] else [literal run.reverse]
  | literal bytes :: rest => joinRuns (bytes.reverseAux run) rest
  | p :: rest =>
    if run.isEmpty then p :: joinRuns [] rest else literal run.reverse :: p :: joinRuns [] rest

/-- Shapes one after the other. -/
def concat (ps : List Shape) : Shape :=
  match joinRuns [] (ps.flatMap seqParts) with
  | [] => empty
  | [p] => p
  | parts => seq parts

/-- The branches of a shape among alternatives. -/
def altBranches : Shape → List Shape
  | alt branches => branches
  | p => [p]

/-- The character of a run of bytes that holds one. -/
def singleChar? : Shape → Option Char
  | literal bytes =>
    match String.fromUTF8? (ByteArray.mk bytes.toArray) with
    | some s => match s.toList with
      | [c] => some c
      | _ => none
    | none => none
  | _ => none

/-- The set of a shape that is one. -/
def set? : Shape → Option CharSet
  | set s => some s
  | _ => none

/-- The number of parts that two lists share at their start. -/
def sharedCount : List Shape → List Shape → Nat
  | p :: ps, q :: qs => if same p q then sharedCount ps qs + 1 else 0
  | _, _ => 0

/-- The parts of a shape that is a sequence. -/
def partsOfSeq? : Shape → Option (List Shape)
  | seq parts => some parts
  | _ => none

/-- The parts with which all of some sequences start; nothing when one of them is no sequence. -/
def sharedStart (branches : List Shape) : List Shape :=
  match branches.mapM partsOfSeq? with
  | some (first :: rest) =>
    rest.foldl (fun shared parts => shared.take (sharedCount shared parts)) first
  | _ => []

/-- Alternatives that do not lie inside one another, as one set when all are single characters or
all are sets. -/
def alternatives (branches : List Shape) : Shape ⊕ List Shape :=
  match branches with
  | [] => .inl (set .empty)
  | [p] => .inl p
  | branches =>
    match branches.mapM singleChar?, branches.mapM set? with
    | some cs, _ => .inl (ofSet (.ofRanges (cs.map fun c => (c.toNat, c.toNat))))
    | none, some sets => .inl (ofSet (.ofRanges (sets.flatMap (·.ranges))))
    | none, none => .inr branches

/-- Shapes of which one is chosen.  A beginning that all of them share is put before them; the fuel
bounds how often. -/
def alternationWithin : (fuel : Nat) → List Shape → Shape
  | 0, ps => alt ps
  | fuel + 1, ps =>
    match alternatives (ps.flatMap altBranches) with
    | .inl p => p
    | .inr branches =>
      match sharedStart branches with
      | [] => alt branches
      | shared =>
        let rests := branches.map fun b => concat ((seqParts b).drop shared.length)
        concat (shared ++ [alternationWithin fuel rests])

/-- Shapes of which one is chosen.  Every beginning that is put before them leaves fewer parts. -/
def alternation (ps : List Shape) : Shape := alternationWithin (partCountAll ps) ps

end Shape

/-! ## Patterns -/

mutual

/-- The simplified form of a pattern. -/
def shape (p : Pattern) : Shape := .concat (elements p [])
termination_by (sizeOf p, 1)

/-- The simplified forms of the parts of a sequence, before others. -/
def elements (p : Pattern) (later : List Shape) : List Shape :=
  match p with
  | .empty => later
  | .one s => .ofSet s :: later
  | .look l => .look l :: later
  | .seq p q => elements p (elements q later)
  | .alt p q => .alternation (branches p (branches q [])) :: later
  | .times p least most greedy => .repetition (shape p) least most greedy :: later
  | .group none p => shape p :: later
  | .group (some number) p => .capture number (shape p) :: later
termination_by (sizeOf p, 0)

/-- The simplified forms of alternatives, before others. -/
def branches (p : Pattern) (later : List Shape) : List Shape :=
  match p with
  | .alt p q => branches p (branches q later)
  | p => shape p :: later
termination_by (sizeOf p, 2)

end

end Pattern

end RadarConform
