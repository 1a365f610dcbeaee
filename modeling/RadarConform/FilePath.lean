import RadarConform.Text.Pieces
import RadarConform.Text.Raw

/-!
# File paths

Slashes in a path separate the names of directories and, at the end, of a file.  A path need not be
a text: what stands between the slashes is whatever the system has for names.

* `FilePath`: a path.
* `FilePath.join`: a path below a directory.
* `FilePath.same`: equality of paths, for which doubled slashes do not count.
* `FilePath.fileName?`: the name at the end of a path.
* `FilePath.stem?`, `FilePath.extension?`: the parts of that name before and after its last point.
-/

namespace RadarConform

/-- A path as the system knows it. -/
abbrev FilePath := RawText

namespace FilePath

/-- What separates the names in a path. -/
abbrev slash : RawUnit := .char '/'

/-- What separates the extension of a name from the rest. -/
abbrev point : RawUnit := .char '.'

/-- A path below a directory; an absolute path stands alone. -/
def join (directory path : FilePath) : FilePath :=
  if path.units.head? = some slash ∨ directory.units = [] then path
  else if directory.units.getLast? = some slash then directory ++ path
  else directory ++ "/" ++ path

/-- The names that a path is made of; empty names and the name `.` after the first place say
nothing. -/
def components (path : List RawUnit) : List (List RawUnit) :=
  match Text.pieces (· == slash) path with
  | [] => []
  | first :: rest => (first :: rest.filter (· ≠ [point])).filter (· ≠ [])

/-- Whether two paths have the same names in the same order from the same start. -/
def same (path other : FilePath) : Bool :=
  (path.units.head? == some slash) == (other.units.head? == some slash)
    && components path.units == components other.units

/-- The name at the end of a path, unless that is `.` or `..`. -/
def fileName? (path : FilePath) : Option (List RawUnit) :=
  match (components path.units).getLast? with
  | none => none
  | some name => if name = [point] ∨ name = [point, point] then none else some name

/-- What stands before and after the last occurrence of a separator. -/
def cutLast {α : Type} [BEq α] (sep : α) (cs : List α) : Option (List α × List α) :=
  (Text.cutOnce (· == sep) cs.reverse).map fun (after, before) => (before.reverse, after.reverse)

/-- A file name cut at its last point; a point at its very start does not count. -/
def splitName (name : List RawUnit) : List RawUnit × Option (List RawUnit) :=
  match cutLast point name with
  | some (before, after) => if before = [] then (name, none) else (before, some after)
  | none => (name, none)

/-- The part of the name at the end of a path before its last point. -/
def stem? (path : FilePath) : Option (List RawUnit) :=
  (fileName? path).map fun name => (splitName name).1

/-- The part of the name at the end of a path after its last point. -/
def extension? (path : FilePath) : Option (List RawUnit) := do
  let name ← fileName? path
  (splitName name).2

end FilePath

end RadarConform
