/-!
# Metering the states of an automaton

An automaton is not built here: what counts is how many states it would have, what they would take
in memory, and whether that is too much.  A state of any kind has a fixed size; a branching state
takes more for every edge.

* `Meter`: the states so far and their edges.
* `Metered`: a part of an automaton, as what it adds to a meter.
* `inSequence`, `alternatives`, `copies`, `atLeast`, `between`: parts put together.

The result of a part says whether it ends with a branching state: what follows it is then one more
edge of that state.
-/

namespace RadarConform.Pattern

/-- The number of states of an automaton and the memory that their edges take. -/
structure Meter where
  states : Nat
  edgeBytes : Nat

namespace Meter

/-- The meter of no states. -/
def zero : Meter := { states := 0, edgeBytes := 0 }

/-- The size of a state without its edges. -/
def stateSize : Nat := 32

/-- The size of an edge that leads anywhere, and of one that is labelled with a range of bytes. -/
def edgeSize : Nat := 4

/-- The size of an edge that is labelled with a range of bytes. -/
def labelledEdgeSize : Nat := 8

/-- The memory that an automaton takes. -/
def size (m : Meter) : Nat := stateSize * m.states + m.edgeBytes

/-- The memory that no automaton may exceed: 10 MiB. -/
def limit : Nat := 10485760

/-- A meter that does not exceed the limit. -/
def within (m : Meter) : Option Meter := if m.size ≤ limit then some m else none

end Meter

/-- What is metered until the limit is exceeded. -/
abbrev Metered := StateT Meter Option

namespace Metered

/-- One more state, with some memory for edges; the result is its number. -/
def state (edgeBytes : Nat) : Metered Nat := fun m =>
  (Meter.within { states := m.states + 1, edgeBytes := m.edgeBytes + edgeBytes }).map
    fun next => (m.states, next)

/-- One more edge of a branching state. -/
def edge : Metered Unit := fun m =>
  (Meter.within { m with edgeBytes := m.edgeBytes + Meter.edgeSize }).map fun next => ((), next)

/-- The edge from the end of a part to what follows it. -/
def follow (branching : Bool) : Metered Unit := if branching then edge else pure ()

/-- A state with a single edge of any kind. -/
def plain : Metered Bool := do
  let _ ← state 0
  return false

/-- A branching state without edges. -/
def branch : Metered Unit := do
  let _ ← state 0

/-! ## Sequences -/

/-- Parts after one that is finished. -/
def continueWith (branching : Bool) : List (Metered Bool) → Metered Bool
  | [] => pure branching
  | part :: rest => do
    let next ← part
    follow branching
    continueWith next rest

/-- Parts one after the other. -/
def inSequence : List (Metered Bool) → Metered Bool
  | [] => plain
  | part :: rest => do continueWith (← part) rest

/-! ## Alternatives -/

/-- Parts that all start at one branching state and end at one plain state. -/
def branches : List (Metered Bool) → Metered Unit
  | [] => pure ()
  | part :: rest => do
    let last ← part
    edge
    follow last
    branches rest

/-- Parts of which one is chosen. -/
def alternatives : List (Metered Bool) → Metered Bool
  | [] => plain
  | [part] => part
  | first :: second :: rest => do
    let a ← first
    let b ← second
    branch
    let _ ← plain
    edge
    follow a
    edge
    follow b
    branches rest
    return false

/-! ## Repetitions -/

/-- A number of copies of a part after one that is finished. -/
def moreCopies (part : Metered Bool) : (count : Nat) → (branching : Bool) → Metered Bool
  | 0, branching => pure branching
  | count + 1, branching => do
    let next ← part
    follow branching
    moreCopies part count next

/-- A number of copies of a part. -/
def copies (part : Metered Bool) : Nat → Metered Bool
  | 0 => plain
  | count + 1 => do moreCopies part count (← part)

/-- A part or nothing. -/
def optionally (part : Metered Bool) : Metered Bool := do
  branch
  let last ← part
  let _ ← plain
  edge
  edge
  follow last
  return false

/-- A part any number of times; `consumes` says that it never spans the empty text. -/
def anyTimes (part : Metered Bool) (consumes : Bool) : Metered Bool :=
  if consumes then do
    branch
    let last ← part
    edge
    follow last
    return true
  else do
    let last ← part
    branch
    follow last
    edge
    branch
    let _ ← plain
    edge
    edge
    edge
    return false

/-- A part a number of times or more. -/
def atLeast (part : Metered Bool) (consumes : Bool) : Nat → Metered Bool
  | 0 => anyTimes part consumes
  | 1 => do
    let last ← part
    branch
    follow last
    edge
    return true
  | count + 2 => do
    let before ← copies part (count + 1)
    let last ← part
    branch
    follow before
    follow last
    edge
    return true

/-- A number of copies of a part after one that is finished, each of which may be the last. -/
def optionalCopies (part : Metered Bool) : (count : Nat) → (branching : Bool) → Metered Bool
  | 0, branching => pure branching
  | count + 1, branching => do
    branch
    let next ← part
    follow branching
    edge
    edge
    optionalCopies part count next

/-- A part at least and at most some numbers of times, the second of which is greater. -/
def between (part : Metered Bool) (least most : Nat) : Metered Bool := do
  let before ← copies part least
  let _ ← plain
  let last ← optionalCopies part (most - least) before
  follow last
  return false

/-- A part repeated. -/
def repeated (part : Metered Bool) (consumes : Bool) (least : Nat) : Option Nat → Metered Bool
  | none => atLeast part consumes least
  | some most =>
    if least = 0 ∧ most = 1 then optionally part
    else if least = most then copies part least
    else between part least most

end Metered

end RadarConform.Pattern
