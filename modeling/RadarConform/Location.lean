import RadarConform.Text.Blank
import RadarConform.Text.Pieces
import RadarConform.Text.Quoted

/-!
# Locations

A location names one node of a radar file: a group or dataset by the path of segments that leads
to it, or an attribute by the path of the group it is attached to and its name.  Segments are
kept apart, so two spellings of a path (`/what`, `//what/ `) are one location.

* `Location`: the segments, outermost first, and the attribute name, if there is one.
* `Location.container`, `Location.ofAttribute`: locations from parts.
* `Location.parse`: the reader of texts in which `#` comes before the attribute name.
* `Location.parseAttribute`: the reader of texts known to name an attribute, which may write the
  name as the last segment.
* `Location.text`: the text form.
* `Location.le`: the order, by segments and then by attribute.
-/

namespace RadarConform

/-- A group, dataset or attribute of a radar file. -/
structure Location where
  segments : List String
  attributeName : Option String
deriving DecidableEq, Hashable, Inhabited

/-- Why a text is not a location; `input` is the text as it was given. -/
inductive LocationError where
  | empty
  | multipleSeparators (input : String)
  | emptyAttribute (input : String)
  | noSegment (input : String)
deriving DecidableEq

/-- The message of an error. -/
def LocationError.message : LocationError → String
  | .empty => "empty location"
  | .multipleSeparators input =>
    "location " ++ Text.quoted input ++ " has more than one attribute separator '#'"
  | .emptyAttribute input => "location " ++ Text.quoted input ++ " names an empty attribute"
  | .noSegment input =>
    "location " ++ Text.quoted input ++ " has no segment to use as attribute name"

namespace Location

/-! ## Building -/

/-- The segments of a path: the pieces between slashes, trimmed, without the blank ones. -/
def segmentsOf (path : List Char) : List String :=
  (((Text.pieces (· == '/') path).map Text.trim).filter (· ≠ [])).map String.ofList

/-- The group or dataset at the end of the given segments, each of which may hold slashes. -/
def container (segments : List String) : Location :=
  { segments := segments.flatMap (segmentsOf ·.toList), attributeName := none }

/-- The attribute of a name at the end of the given segments. -/
def ofAttribute (segments : List String) (name : String) : Location :=
  { container segments with attributeName := some (Text.trimmed name) }

/-- The root group. -/
def root : Location := container []

/-! ## Reading -/

/-- Reads a location in which `#` separates the attribute name from the path. -/
def parse (input : String) : Except LocationError Location :=
  let text := Text.trim input.toList
  if text = [] then .error .empty
  else
    match Text.pieces (· == '#') text with
    | [path] => .ok { segments := segmentsOf path, attributeName := none }
    | [path, name] =>
      if Text.trim name = [] then .error (.emptyAttribute input)
      else .ok { segments := segmentsOf path, attributeName := some (.ofList (Text.trim name)) }
    | _ => .error (.multipleSeparators input)

/-- Reads the location of an attribute: as `parse` does when there is a `#`, otherwise with the
last segment as the name. -/
def parseAttribute (input : String) : Except LocationError Location :=
  if input.toList.contains '#' then parse input
  else do
    let location ← parse input
    match location.segments.getLast? with
    | some name => .ok { segments := location.segments.dropLast, attributeName := some name }
    | none => .error (.noSegment input)

/-! ## Parts -/

/-- Whether a location names an attribute. -/
def isAttribute (l : Location) : Bool := l.attributeName.isSome

/-- The group or dataset that a location lies in; the location itself if it names no attribute. -/
def enclosing (l : Location) : Location := { l with attributeName := none }

/-- The innermost segment. -/
def lastSegment? (l : Location) : Option String := l.segments.getLast?

/-! ## Text form and order -/

/-- The path part of the text form. -/
def pathText : List String → String
  | [] => "/"
  | segments => String.join (segments.map ("/" ++ ·))

/-- The text form: a slash before every segment, a lone slash for the root, then `#` and the
attribute name. -/
def text (l : Location) : String :=
  pathText l.segments ++
    match l.attributeName with
    | some name => "#" ++ name
    | none => ""

/-- Whether the first of two lists of segments comes before or is equal to the second, in the
order of dictionaries. -/
def segmentsLe : List String → List String → Bool
  | [], _ => true
  | _ :: _, [] => false
  | s :: ss, t :: ts => s < t || (s == t && segmentsLe ss ts)

/-- Whether the first of two attribute parts comes before or is equal to the second; no attribute
comes first. -/
def attributeLe : Option String → Option String → Bool
  | none, _ => true
  | some _, none => false
  | some a, some b => a < b || a == b

/-- The order of locations: by segments, then by attribute. -/
def le (l k : Location) : Bool :=
  if l.segments = k.segments then attributeLe l.attributeName k.attributeName
  else segmentsLe l.segments k.segments

end Location

end RadarConform
