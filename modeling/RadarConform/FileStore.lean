import RadarConform.FilePath

/-!
# Files

What a check reads are texts under paths.  The files stand still while a check runs, so they are a
function from paths to what is found there.

* `ReadError`: why no text is found under a path.
* `FileStore`: the files.
* `FileStore.ofList`: files given by a list of paths and contents.
-/

namespace RadarConform

/-- Why a file cannot be read as a text. -/
inductive ReadError where
  | absent
  | notText
  | directory
  /-- Something on the way to the file is no directory. -/
  | notDirectory
  /-- Any other cause, as the system words it. -/
  | other (cause : String)
deriving DecidableEq

/-- The message of an error. -/
def ReadError.message : ReadError → String
  | .absent => "No such file or directory (os error 2)"
  | .notText => "stream did not contain valid UTF-8"
  | .directory => "Is a directory (os error 21)"
  | .notDirectory => "Not a directory (os error 20)"
  | .other cause => cause

/-- The files: the text under a path, or why there is none. -/
structure FileStore where
  read : FilePath → Except ReadError String

namespace FileStore

/-- Whether there is a file under a path, be it a text or not. -/
def holds (store : FileStore) (path : FilePath) : Bool :=
  match store.read path with
  | .ok _ | .error .notText => true
  | .error _ => false

/-! ## Files given by a list -/

open FilePath (slash point)

/-- A path as the names that it is made of. -/
abbrev Names := List (List RawUnit)

/-- The names of a path; those that say nothing are left out. -/
def names (path : FilePath) : Names :=
  (Text.pieces (· == slash) path.units).filter (fun p => p ≠ [] ∧ p ≠ [point])

/-- Whether the end of a path says that it is the path of a directory. -/
def endsAsDirectory (path : FilePath) : Bool :=
  match (Text.pieces (· == slash) path.units).getLast? with
  | some name => name = [] || name = [point]
  | none => false

/-- Whether a directory lies on the way to one of the files. -/
def isDirectory (files : List Names) (directory : Names) : Bool :=
  directory = [] || files.any (fun f => directory.length < f.length && directory.isPrefixOf f)

/-- Where the names of a path lead to from a place: `..` goes back, and every name but the last must
be that of a directory. -/
def follow (files : List Names) (place : Names) : Names → Except ReadError Names
  | [] => .ok place
  | p :: rest =>
    if !isDirectory files place then
      .error (if files.contains place then .notDirectory else .absent)
    else if p = [point, point] then follow files place.dropLast rest
    else follow files (place ++ [p]) rest

/-- Where a path leads to; an absolute path leads nowhere here. -/
def locate (files : List Names) (path : FilePath) : Except ReadError Names :=
  if path.units = [] ∨ path.units.head? = some slash then .error .absent
  else follow files [] (names path)

/-- The files of a list: relative paths with texts, or with nothing for files that hold no text. -/
def ofList (files : List (FilePath × Option String)) : FileStore where
  read path := do
    let known := files.map fun f => names f.1
    let place ← locate known path
    match files.find? (fun f => names f.1 == place) with
    | some (_, content) =>
      if endsAsDirectory path then .error .notDirectory
      else content.elim (.error .notText) .ok
    | none => .error (if isDirectory known place then .directory else .absent)

end FileStore

end RadarConform
