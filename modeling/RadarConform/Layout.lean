import RadarConform.Location
import RadarConform.Value
import RadarConform.Version

/-!
# Layouts

A layout is the flat list of what one radar file holds: its groups, datasets and attributes, each
with its location, in the order of the file.  Attributes carry values, groups and datasets none.

* `Node`: one group, dataset or attribute.
* `Layout`: the nodes in order, with `Layout.push` and `Layout.modify`.
* `Layout.declaredVersion`, `Layout.product`: what the file says about itself.
-/

namespace RadarConform

/-- A group, dataset or attribute of a file.  An implied node is a group that the file does not
list but that something listed lies in. -/
structure Node where
  location : Location
  value : Option AttributeValue
  implied : Bool
deriving DecidableEq, Inhabited

/-- The nodes of a file, in order. -/
structure Layout where
  nodes : List Node
deriving DecidableEq, Inhabited

namespace Layout

/-- The layout without nodes. -/
def empty : Layout := { nodes := [] }

/-- The layout with one more node at its end. -/
def push (l : Layout) (n : Node) : Layout := { nodes := l.nodes ++ [n] }

/-- Whether a layout has a node at a location. -/
def hasNode (l : Layout) (location : Location) : Bool := l.nodes.any (·.location == location)

/-- The layout with the node at a place, counted from 0, changed. -/
def modify (l : Layout) (place : Nat) (change : Node → Node) : Layout :=
  { nodes := l.nodes.modify place change }

/-- The first node at a location. -/
def node? (l : Layout) (location : Location) : Option Node :=
  l.nodes.find? (·.location == location)

/-- The text held by the first node at a location. -/
def text? (l : Layout) (location : Location) : Option String := do
  let node ← l.node? location
  let value ← node.value
  value.text?

/-- The attributes in which a file may declare its revision, the decisive one first. -/
def versionLocations : List Location :=
  [.ofAttribute ["what"] "version", .ofAttribute [] "Conventions"]

/-- The revision that a file declares. -/
def declaredVersion (l : Layout) : Option Version :=
  versionLocations.findSome? fun location => do
    let text ← l.text? location
    (Version.parse text).toOption

/-- The attribute in which a file names its product. -/
def productLocation : Location := .ofAttribute ["what"] "object"

/-- The product that a file names, unless it is blank. -/
def product (l : Layout) : Option String := do
  let text ← l.text? productLocation
  if Text.isBlankText text then none else some (Text.trimmed text)

end Layout

end RadarConform
