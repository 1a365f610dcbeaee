import RadarConform.Pattern.Meter

/-!
# Automata of alternative literals

Alternatives that are all runs of bytes are read by a tree: runs that start with the same bytes
share the states for these.  Where a run ends, the states for the runs that come after it are apart
from those for the runs before it, so that the order of the alternatives is kept.

* `chunks`: the runs that pass a place of the tree, cut where runs end there.
* `Metered.literals`: the automaton of alternative literals.
-/

namespace RadarConform.Pattern

/-- What is left of the runs that pass a place of the tree, in their order: those that go on, in
chunks between which runs end at the place.  The chunks that are finished and the runs of the one
that is not are given with the last first.  A run that ends where another has ended and none has
gone on makes no chunk. -/
def cut (finished : List (List (List UInt8))) (current : List (List UInt8)) :
    List (List UInt8) → List (List (List UInt8))
  | [] => (current.reverse :: finished).reverse
  | [] :: rest =>
    if !finished.isEmpty && finished.all (·.isEmpty) && current.isEmpty then
      cut finished current rest
    else cut (current.reverse :: finished) [] rest
  | run :: rest => cut finished (run :: current) rest

/-- The chunks of the runs that pass a place. -/
def chunks (runs : List (List UInt8)) : List (List (List UInt8)) := cut [] [] runs

/-- The bytes with which some runs start. -/
def firstBytes (runs : List (List UInt8)) : List UInt8 := (runs.filterMap (·.head?)).eraseDups

/-- What is left of the runs that start with a byte. -/
def tailsAfter (byte : UInt8) (runs : List (List UInt8)) : List (List UInt8) :=
  (runs.filter (·.head? == some byte)).map (·.drop 1)

namespace Metered

/-- The states for the place that some runs pass; the fuel bounds the length of what is left of
them.  Where no run goes on, there is none. -/
def place : (fuel : Nat) → List (List UInt8) → Metered Unit
  | 0, _ => pure ()
  | fuel + 1, runs => do
    let parts := chunks runs
    if parts.any (!·.isEmpty) then
      parts.forM fun chunk => do
        let bytes := firstBytes chunk
        bytes.forM fun b => place fuel (tailsAfter b chunk)
        if bytes.length = 1 then branch
        else if 1 < bytes.length then
          let _ ← state (Meter.labelledEdgeSize * bytes.length)
      let edges := (parts.filter (!·.isEmpty)).length + (parts.length - 1)
      let _ ← state (Meter.edgeSize * edges)

/-- The automaton of alternative literals. -/
def literals (runs : List (List UInt8)) : Metered Bool := do
  let _ ← plain
  place (runs.foldl (fun n run => max n run.length) 0 + 1) runs
  return false

end Metered

end RadarConform.Pattern
