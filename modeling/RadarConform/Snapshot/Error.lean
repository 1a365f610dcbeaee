import RadarConform.FilePath
import RadarConform.FileStore
import RadarConform.Json.Writer
import RadarConform.Location
import RadarConform.Yaml.Conversion

/-!
# Formats of snapshots and their errors

* `SnapshotFormat`: the formats, with `SnapshotFormat.ofPath`.
* `TextFault`: why a text is not of its format.
* `EntryFault`: what is wrong with an entry.
* `LayoutError`: why a layout cannot be loaded.
-/

namespace RadarConform

/-- The formats of snapshots. -/
inductive SnapshotFormat where
  | json
  | yaml
deriving DecidableEq

namespace SnapshotFormat

/-- The name of a format. -/
def name : SnapshotFormat → String
  | json => "JSON"
  | yaml => "YAML"

/-- The format that the name of a file tells: YAML for `.yaml` and `.yml` in any case, and JSON for
all others. -/
def ofPath (path : FilePath) : SnapshotFormat :=
  match path.extension?.bind RawUnit.chars? with
  | some e =>
    let word := String.ofList (e.map Char.toLower)
    if word = "yaml" ∨ word = "yml" then yaml else json
  | none => json

end SnapshotFormat

/-- Why a text is not of its format. -/
inductive TextFault where
  | malformed
  /-- A YAML value without a JSON form. -/
  | noJson (fault : Yaml.ConversionFault)

/-- What a fault says. -/
def TextFault.message : TextFault → String
  | malformed => "<parser error>"
  | noJson fault => fault.message

/-- What is wrong with the value of an entry. -/
inductive EntryFault where
  | valueMissing
  | notNumber (item : Json)
  | truthValue
  | nested

/-- What a fault says. -/
def EntryFault.message : EntryFault → String
  | valueMissing => "an attribute needs a value"
  | notNumber item => "sequence element " ++ item.compact ++ " is not a number"
  | truthValue => "booleans are not ODIM_H5 attribute values"
  | nested => "nested mappings are not supported; use full locations as keys"

/-- Why a layout cannot be loaded. -/
inductive LayoutError where
  | unreadable (path : String) (cause : ReadError)
  | invalid (path : String) (format : SnapshotFormat) (fault : TextFault)
  | notMapping (path : String)
  | value (path key : String) (fault : EntryFault)
  | location (path key : String) (error : LocationError)

namespace LayoutError

/-- The message of an error. -/
def message : LayoutError → String
  | unreadable path cause => "cannot read layout '" ++ path ++ "': " ++ cause.message
  | invalid path format fault =>
    "layout '" ++ path ++ "' is not valid " ++ format.name ++ ": " ++ fault.message
  | notMapping path => "layout '" ++ path ++ "' must be a mapping of locations to values"
  | value path key fault =>
    "layout '" ++ path ++ "' entry " ++ Text.quoted key ++ ": " ++ fault.message
  | location path key error =>
    "layout '" ++ path ++ "' entry " ++ Text.quoted key ++ ": " ++ error.message

/-- The messages of an error and of the errors that caused it, the outermost first. -/
def chain (e : LayoutError) : List String :=
  match e with
  | unreadable _ cause => [e.message, cause.message]
  | location _ _ error => [e.message, error.message]
  | _ => [e.message]

end LayoutError

end RadarConform
