import RadarConform.Pattern.ByteSequence
import RadarConform.Pattern.Meter

/-!
# Automata of sets of characters

The automaton of a set reads the sequences of bytes of its characters.  States that lead to the same
end are shared as far as they are remembered: a memory has a fixed number of slots, the slot of a
state follows from its edges, and a state that comes into a slot later takes the place of the one
before.

* `Memory`: states that are remembered under their keys.
* `Metered.setForward`: the automaton that reads the bytes in their order.
* `Metered.setBackward`: the automaton that reads them from the last to the first.
-/

namespace RadarConform.Pattern

/-! ## Memories -/

/-- The next value of a hash after one more number: the FNV-1a hash of 64 bits, with whole numbers
in the place of bytes. -/
def hashWith (h : UInt64) (n : Nat) : UInt64 := (h ^^^ UInt64.ofNat n) * 1099511628211

/-- The hash of some numbers. -/
def hashOf (ns : List Nat) : UInt64 := ns.foldl hashWith 14695981039346656037

/-- States that are remembered under the keys that they follow from. -/
structure Memory (κ : Type) where
  slots : Array (Option (κ × Nat))

namespace Memory

variable {κ : Type}

/-- The memory in which nothing is remembered. -/
def empty (size : Nat) : Memory κ := { slots := Array.replicate size none }

/-- The slot of a key that consists of some numbers. -/
def slot (m : Memory κ) (key : List Nat) : Nat := (hashOf key % UInt64.ofNat m.slots.size).toNat

/-- The state that is remembered in a slot under a key. -/
def find? [BEq κ] (m : Memory κ) (slot : Nat) (key : κ) : Option Nat :=
  match m.slots[slot]? with
  | some (some (k, state)) => if k == key then some state else none
  | _ => none

/-- The memory with a state in a slot. -/
def remember (m : Memory κ) (slot : Nat) (key : κ) (state : Nat) : Memory κ :=
  { slots := m.slots.setIfInBounds slot (some (key, state)) }

end Memory

/-! ## Forward -/

/-- An edge for a range of bytes, with the state that it leads to. -/
structure Edge where
  label : ByteRange
  target : Nat
deriving DecidableEq

/-- A state that may get more edges: those it has, the last first, and the label of one whose target
is not known. -/
structure OpenState where
  edges : List Edge
  label : Option ByteRange

namespace OpenState

/-- A state without edges. -/
def new : OpenState := { edges := [], label := none }

/-- The state after the target of its last edge is known. -/
def resolve (s : OpenState) (target : Nat) : OpenState :=
  match s.label with
  | some label => { edges := { label, target } :: s.edges, label := none }
  | none => s

end OpenState

/-- An automaton in the making: the open states on the way to the last character, the innermost
first, and the closed ones that are remembered. -/
structure ForwardBuild where
  path : List OpenState
  memory : Memory (List Edge)

namespace Metered

/-- The number of states that are remembered forward. -/
def forwardMemory : Nat := 10000

/-- The numbers that the slot of a state depends on. -/
def edgeNumbers (edges : List Edge) : List Nat :=
  edges.flatMap fun e => [e.label.low.toNat, e.label.high.toNat, e.target]

/-- A state with some edges: one that is remembered or else a new one. -/
def closedState (memory : Memory (List Edge)) (edges : List Edge) :
    Metered (Nat × Memory (List Edge)) := do
  let slot := memory.slot (edgeNumbers edges)
  match memory.find? slot edges with
  | some state => return (state, memory)
  | none =>
    let new ← state (Meter.labelledEdgeSize * edges.length)
    return (new, memory.remember slot edges new)

/-- Closes the innermost states of a path except for a number of outer ones; `target` is where the
last edge of the innermost state leads. -/
def closeInner (keep target : Nat) (memory : Memory (List Edge)) :
    List OpenState → Metered ForwardBuild
  | [] => return { path := [], memory }
  | s :: path =>
    if keep < path.length then do
      let (state, memory) ← closedState memory (s.resolve target).edges.reverse
      closeInner keep state memory path
    else return { path := s.resolve target :: path, memory }

/-- The number of labels at the start of a sequence that the open states, the outermost first, have
as well. -/
def sharedLabels : List ByteRange → List OpenState → Nat
  | label :: labels, s :: path => if s.label = some label then sharedLabels labels path + 1 else 0
  | _, _ => 0

/-- The path with the labels of a sequence added at its inner end. -/
def extend (path : List OpenState) : List ByteRange → List OpenState
  | [] => path
  | label :: labels =>
    match path with
    | s :: outer =>
      labels.foldl (fun path l => { OpenState.new with label := some l } :: path)
        ({ s with label := some label } :: outer)
    | [] => []

/-- One more sequence, which comes after all those before. -/
def addSequence (target : Nat) (b : ForwardBuild) (labels : List ByteRange) :
    Metered ForwardBuild := do
  let shared := sharedLabels labels b.path.reverse
  let b ← closeInner shared target b.memory b.path
  return { b with path := extend b.path (labels.drop shared) }

/-- The automaton of a set that reads the bytes of a character from the first to the last. -/
def setForward (s : CharSet) : Metered Bool := do
  let target ← state 0
  let start : ForwardBuild := { path := [.new], memory := .empty forwardMemory }
  let b ← s.byteSequences.foldlM (addSequence target) start
  let b ← closeInner 0 target b.memory b.path
  let _ ← closedState b.memory (b.path.flatMap (·.edges)).reverse
  return false

/-! ## Backward -/

/-- The number of states that are remembered backward. -/
def backwardMemory : Nat := 1000

/-- The states for a sequence of labels: that of the first byte leads to `target`, each other to the
one before it, and the branching state to the last. -/
def backwardChain (memory : Memory Edge) (target : Nat) :
    List ByteRange → Metered (Memory Edge)
  | [] => do
    edge
    return memory
  | label :: labels => do
    let key : Edge := { label, target }
    let slot := memory.slot [target, label.low.toNat, label.high.toNat]
    match memory.find? slot key with
    | some state => backwardChain memory state labels
    | none =>
      let new ← state 0
      backwardChain (memory.remember slot key new) new labels

/-- The automaton of a set that reads the bytes of a character from the last to the first. -/
def setBackward (s : CharSet) : Metered Bool := do
  branch
  let target ← state 0
  let _ ← s.byteSequences.foldlM (fun memory labels => backwardChain memory target labels)
    (Memory.empty backwardMemory)
  return false

/-- An automaton that reads one byte from any of a number of ranges. -/
def oneByte (rangeCount : Nat) : Metered Bool := do
  let _ ← plain
  let _ ← state (Meter.labelledEdgeSize * rangeCount)
  return false

/-- The automaton of a set; the characters of ASCII are bytes. -/
def set (backward : Bool) (s : CharSet) : Metered Bool :=
  if s.ranges.all (·.2 < 128) then oneByte s.ranges.length
  else if backward then setBackward s
  else setForward s

end Metered

end RadarConform.Pattern
