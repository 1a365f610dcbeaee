import RadarConform.Event
import RadarConform.Json.Reader
import RadarConform.Layout
import RadarConform.Snapshot.Error

/-!
# Reading snapshots

A snapshot is a mapping from locations to values, in JSON or YAML.  An entry without a value lists
a group or dataset, any other an attribute.  The groups that an entry lies in come before it in the
layout; those that no entry lists are marked as implied.

* `Layout.list`, `Layout.attach`: a layout with one more group or attribute.
* `Layout.ofEntries`: the layout of a mapping.
* `Layout.parse`: the layout of a text.
* `Layout.load`: the layout of a file.
-/

namespace RadarConform

namespace Layout

/-! ## Building a layout -/

/-- The layout with a group that is only implied, unless it is there. -/
def imply (l : Layout) (location : Location) : Layout :=
  if l.hasNode location then l else l.push { location, value := none, implied := true }

/-- The groups on the way to a group, which is the last of them. -/
def path (segments : List String) : List Location :=
  (List.range segments.length).map fun n =>
    { segments := segments.take (n + 1), attributeName := none }

/-- The layout with all groups on the way to one and that group itself, if they are not there. -/
def implyPath (l : Layout) (segments : List String) : Layout := (path segments).foldl imply l

/-- The layout with a group or dataset that is listed. -/
def list (l : Layout) (location : Location) : Layout :=
  let l := l.implyPath location.segments.dropLast
  if l.hasNode location then
    { nodes := l.nodes.map fun n =>
        if n.location = location then { n with implied := false } else n }
  else l.push { location, value := none, implied := false }

/-- The layout with an attribute. -/
def attach (l : Layout) (location : Location) (value : AttributeValue) : Layout :=
  (l.implyPath location.segments).push { location, value := some value, implied := false }

end Layout

/-! ## Entries -/

/-- The numbers of a sequence. -/
def numbersOfJson : List Json → Except EntryFault (List Number)
  | [] => .ok []
  | v :: rest =>
    match v.number? with
    | none => .error (.notNumber v)
    | some x => (numbersOfJson rest).map (x :: ·)

/-- The value of an attribute. -/
def AttributeValue.ofEntry (v : Json) : Except EntryFault AttributeValue :=
  match v with
  | .text s => .ok (.text s)
  | .list items => (numbersOfJson items).map .sequence
  | .bool _ => .error .truthValue
  | .record _ => .error .nested
  | .null => .error .valueMissing
  | .integer n => .ok (.number (Json.numberOfInt n))
  | .real x => .ok (.number x)

namespace Layout

/-- The layout with what an entry of a mapping says. -/
def addEntry (path : String) (l : Layout) (key : String) (v : Json) : Except LayoutError Layout :=
  match v with
  | .null =>
    if key.toList.contains '#' then .error (.value path key .valueMissing)
    else (Location.parse key).mapError (.location path key) |>.map l.list
  | v => do
    let location ← (Location.parseAttribute key).mapError (.location path key)
    let value ← (AttributeValue.ofEntry v).mapError (.value path key)
    return l.attach location value

/-- The layout of the entries of a mapping, up to the first one at fault. -/
def ofEntries (path : String) : Layout → List (String × Json) → Except LayoutError Layout
  | l, [] => .ok l
  | l, (key, v) :: rest => do ofEntries path (← l.addEntry path key v) rest

/-- The layout of a document. -/
def ofDocument (path : String) (v : Json) : Except LayoutError Layout :=
  match v with
  | .record entries => ofEntries path .empty entries
  | _ => .error (.notMapping path)

end Layout

/-! ## Texts and files -/

/-- The document of a text. -/
def SnapshotFormat.document (format : SnapshotFormat) (text : String) : Except TextFault Json :=
  match format with
  | .json =>
    match Json.parse text with
    | some v => .ok v.merged
    | none => .error .malformed
  | .yaml =>
    match Yaml.parse text with
    | some v => v.toJson.mapError .noJson
    | none => .error .malformed

namespace Layout

/-- Reads a layout; `path` names it in errors. -/
def parse (text : String) (format : SnapshotFormat) (path : String) :
    Except LayoutError Layout := do
  let document ← (format.document text).mapError (.invalid path format)
  ofDocument path document

/-- Loads the layout of a file. -/
def load (store : FileStore) (path : FilePath) : Logged LayoutError Layout := do
  let text ← (store.read path).mapError (LayoutError.unreadable path.shown)
  let format := SnapshotFormat.ofPath path
  let layout ← parse text format path.shown
  .report (.loadedSnapshot path.shown format.name layout.nodes.length)
  return layout

end Layout

end RadarConform
