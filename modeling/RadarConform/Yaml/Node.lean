import RadarConform.Yaml.Token

/-!
# Nodes of a YAML document

A document is a tree of scalars, sequences and mappings.  A node may have an anchor, by which it is
referred to from elsewhere, and a tag.

* `Node`: a node as it is written, references included.
* `Tree`: a node in which all references are resolved.
* `Node.resolved?`: the tree of a node.

Anchors are resolved in two steps.  Every anchored node gets a number, which is the count of the
names known before it, and a name stands for the number of the last node that bore it.  A number in
turn stands for the last node of the document that got it.  Names that differ from first to last
have numbers that differ; a name that is used again takes a number that the next new name gets as
well.

In a mapping with a tag of its own, the tags that are written at keys do not count, nor do those at
the keys of a mapping that is such a key.  A tag that a key gets by reference counts.
-/

namespace RadarConform.Yaml

/-- The anchor and the tag of a node. -/
structure Properties (ι : Type) where
  anchor : Option ι
  tag : Option Tag

/-- The properties of a node without anchor and tag. -/
def Properties.none {ι : Type} : Properties ι := { anchor := .none, tag := .none }

/-- A node as it is written, with anchors of some type. -/
inductive Node (ι : Type) where
  | reference (target : ι)
  | scalar (properties : Properties ι) (style : ScalarStyle) (text : String)
  | sequence (properties : Properties ι) (items : List (Node ι))
  | mapping (properties : Properties ι) (entries : List (Node ι × Node ι))

/-- A node with its references resolved. -/
inductive Tree where
  | scalar (tag : Option Tag) (style : ScalarStyle) (text : String)
  | sequence (tag : Option Tag) (items : List Tree)
  | mapping (tag : Option Tag) (entries : List (Tree × Tree))
deriving Inhabited

namespace Node

/-! ## Size -/

mutual

/-- The number of the parts that a node is read in: one for a scalar or reference, two for the start
and the end of a collection. -/
def partCount {ι : Type} : Node ι → Nat
  | reference _ => 1
  | scalar .. => 1
  | sequence _ items => partCountAll items + 2
  | mapping _ entries => partCountEntries entries + 2

/-- The number of parts of the items of a sequence. -/
def partCountAll {ι : Type} : List (Node ι) → Nat
  | [] => 0
  | n :: rest => partCount n + partCountAll rest

/-- The number of parts of the entries of a mapping. -/
def partCountEntries {ι : Type} : List (Node ι × Node ι) → Nat
  | [] => 0
  | (k, v) :: rest => partCount k + partCount v + partCountEntries rest

end

end Node

/-! ## Numbers for names -/

/-- The names of anchors that are known, each with the number that it stands for. -/
abbrev AnchorNames := List (String × Nat)

namespace AnchorNames

/-- The names with one more, or with one that now stands for another node: its number is the count
of the names known before. -/
def bind (names : AnchorNames) (name : String) : AnchorNames :=
  (name, names.length) :: names.filter (·.1 ≠ name)

/-- The properties of a node with a number for the name of its anchor, and the names with it. -/
def bindProperties (names : AnchorNames) (p : Properties String) :
    Properties Nat × AnchorNames :=
  match p.anchor with
  | none => ({ anchor := none, tag := p.tag }, names)
  | some name => ({ anchor := some names.length, tag := p.tag }, names.bind name)

end AnchorNames

namespace Node

mutual

/-- The node with numbers for names, and the names known at its end.  A reference to an unknown name
has no number. -/
def numbered (names : AnchorNames) : Node String → Option (Node Nat × AnchorNames)
  | reference name => (names.lookup name).map fun number => (reference number, names)
  | scalar p style text =>
    let (p, names) := names.bindProperties p
    some (scalar p style text, names)
  | sequence p items => do
    let (p, names) := names.bindProperties p
    let (items, names) ← numberedAll names items
    return (sequence p items, names)
  | mapping p entries => do
    let (p, names) := names.bindProperties p
    let (entries, names) ← numberedEntries names entries
    return (mapping p entries, names)

/-- The items of a sequence with numbers for names. -/
def numberedAll (names : AnchorNames) :
    List (Node String) → Option (List (Node Nat) × AnchorNames)
  | [] => some ([], names)
  | n :: rest => do
    let (first, names) ← numbered names n
    let (later, names) ← numberedAll names rest
    return (first :: later, names)

/-- The entries of a mapping with numbers for names. -/
def numberedEntries (names : AnchorNames) :
    List (Node String × Node String) → Option (List (Node Nat × Node Nat) × AnchorNames)
  | [] => some ([], names)
  | (k, v) :: rest => do
    let (key, names) ← numbered names k
    let (value, names) ← numbered names v
    let (later, names) ← numberedEntries names rest
    return ((key, value) :: later, names)

end

/-! ## Nodes for numbers -/

/-- A node under the number of its anchor. -/
def underAnchor (p : Properties Nat) (n : Node Nat) : List (Nat × Node Nat) :=
  match p.anchor with
  | some number => [(number, n)]
  | none => []

mutual

/-- The anchored nodes in a node with their numbers, in the order in which they start. -/
def anchored : Node Nat → List (Nat × Node Nat)
  | reference _ => []
  | scalar p style text => underAnchor p (scalar p style text)
  | sequence p items => underAnchor p (sequence p items) ++ anchoredAll items
  | mapping p entries => underAnchor p (mapping p entries) ++ anchoredEntries entries

/-- The anchored nodes in the items of a sequence. -/
def anchoredAll : List (Node Nat) → List (Nat × Node Nat)
  | [] => []
  | n :: rest => anchored n ++ anchoredAll rest

/-- The anchored nodes in the entries of a mapping. -/
def anchoredEntries : List (Node Nat × Node Nat) → List (Nat × Node Nat)
  | [] => []
  | (k, v) :: rest => anchored k ++ anchored v ++ anchoredEntries rest

end

/-! ## Trees -/

/-- The node that a reference leads to, or any other node itself, and whether its tag counts, which
is given for a node that is no reference.  The state is the number of references that may still be
followed. -/
def follow (targets : List (Nat × Node Nat)) (tagCounts : Bool) :
    Node Nat → StateT Nat Option (Bool × Node Nat)
  | reference number => fun left =>
    match left with
    | 0 => none
    | left + 1 => (targets.lookup number).map fun n => ((true, n), left)
  | n => pure (tagCounts, n)

/-- The tree of a node, in which no more collections than a number lie inside one another.  A node
that refers to one around it has no tree, as it would be endless. -/
def tree (targets : List (Nat × Node Nat)) :
    (depth : Nat) → (tagCounts : Bool) → Node Nat → StateT Nat Option Tree
  | depth, tagCounts, n => do
    let (tagCounts, n) ← follow targets tagCounts n
    let shown (tag : Option Tag) := if tagCounts then tag else none
    match n, depth with
    | scalar p style text, _ => return .scalar (shown p.tag) style text
    | sequence p items, depth + 1 =>
      return .sequence (shown p.tag) (← items.mapM (tree targets depth true))
    | mapping p entries, depth + 1 =>
      let keyTagsCount := tagCounts && !p.tag.any Tag.isOwn
      let entries ← entries.mapM fun e => do
        let key ← tree targets depth keyTagsCount e.1
        return (key, ← tree targets depth true e.2)
      return .mapping (shown p.tag) entries
    | _, _ => failure

/-- The greatest number of collections that may lie inside one another in a tree. -/
def maxDepth : Nat := 128

/-- The number of references that may be followed in a tree for every part of its node. -/
def maxFollowed : Nat := 100

/-- The tree of a node, unless a name in it is unknown, it is too deep or too many references are
followed in it. -/
def resolved? (n : Node String) : Option Tree := do
  let (n, _) ← numbered [] n
  let (t, _) ← (tree n.anchored.reverse maxDepth true n).run (maxFollowed * n.partCount)
  return t

end Node

end RadarConform.Yaml
