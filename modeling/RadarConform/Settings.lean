import RadarConform.FileStore
import RadarConform.Table.Locator
import RadarConform.Yaml.Basic

/-!
# Settings

What a check does when the command line says nothing else can be set in a YAML file: a mapping in
which every setting may stand once.  A file without a document, or with an empty one, sets nothing.

* `Settings`: the settings, with `Settings.standard`.
* `Settings.parse?`: the settings of a text.
* `Settings.load`: the settings of a file.
* `Settings.locator`: where tables are looked for.
-/

namespace RadarConform

/-- What a check does when the command line says nothing else. -/
structure Settings where
  /-- The directory of the tables. -/
  tablesDirectory : FilePath
  /-- The family of the tables. -/
  tableFamily : String
  checkOptional : Bool
  checkExtras : Bool
  /-- Whether single steps are reported. -/
  info : Bool
deriving DecidableEq

/-- Why a file of settings cannot be used. -/
inductive SettingsError where
  | unreadable (path : String)
  | invalid (path : String)
deriving DecidableEq

/-- The message of an error. -/
def SettingsError.message : SettingsError → String
  | unreadable path => "cannot read config file " ++ path
  | invalid path => "invalid config file " ++ path

namespace Settings

/-- The settings that no file changes. -/
def standard : Settings where
  tablesDirectory := "data"
  tableFamily := TableName.defaultFamily
  checkOptional := false
  checkExtras := false
  info := true

/-! ## Reading -/

open Yaml (Tree)

/-- The text of a setting: any scalar as it is written. -/
def text? : Tree → Option String
  | .scalar _ _ s => some s
  | _ => none

/-- The truth value of a setting: one of the words for it without marks around, or as a literal
block that its tag says is a truth value. -/
def flag? : Tree → Option Bool
  | .scalar tag style s =>
    if style = .plain ∨ (style = .literal ∧ tag = some .truth) then Yaml.truth? s
    else none
  | _ => none

/-- The settings after one of them is set; no other name is known. -/
def set? (settings : Settings) (name : String) (value : Tree) : Option Settings :=
  match name with
  | "tables_dir" => (text? value).map fun s => { settings with tablesDirectory := s }
  | "table_prefix" => (text? value).map fun s => { settings with tableFamily := s }
  | "check_optional" => (flag? value).map fun b => { settings with checkOptional := b }
  | "check_extras" => (flag? value).map fun b => { settings with checkExtras := b }
  | "print_info" => (flag? value).map fun b => { settings with info := b }
  | _ => none

/-- The settings after all entries of a mapping; `seen` holds the names of those before. -/
def setAll? (seen : List String) (settings : Settings) : List (Tree × Tree) → Option Settings
  | [] => some settings
  | (key, value) :: rest => do
    let name ← text? key
    if seen.contains name then none
    else setAll? (name :: seen) (← settings.set? name value) rest

/-- The settings of a document. -/
def ofTree? : Tree → Option Settings
  | .mapping _ entries => setAll? [] standard entries
  | .scalar _ .plain "" => some standard
  | _ => none

/-- The settings of a text. -/
def parse? (text : String) : Option Settings := do
  match ← Yaml.Document.read text with
  | none => return standard
  | some tree => ofTree? tree

/-- The settings of a file, if there is one. -/
def load (store : FileStore) : Option FilePath → Except SettingsError Settings
  | none => .ok standard
  | some path =>
    match store.read path with
    | .error _ => .error (.unreadable path.shown)
    | .ok text =>
      match parse? text with
      | some settings => .ok settings
      | none => .error (.invalid path.shown)

/-! ## Use -/

/-- Where tables are looked for, unless another directory is given. -/
def locator (s : Settings) (directory : Option FilePath) : TableLocator :=
  { directory := directory.getD s.tablesDirectory, family := s.tableFamily }

end Settings

end RadarConform
