import RadarConform.FilePath
import RadarConform.Version

/-!
# Options of the command line

* `Opt`: the options.
* `Arguments`: what a command line sets, changed by `Arguments.set`.
* `UsageError`: what is wrong with a command line.
-/

namespace RadarConform

/-- The form in which a report is printed. -/
inductive OutputFormat where
  | text
  | json
deriving DecidableEq

/-- The format of a name. -/
def OutputFormat.ofName? : String → Option OutputFormat
  | "text" => some .text
  | "json" => some .json
  | _ => none

/-- What is wrong with a command line, or that it asks for something else than a command. -/
inductive UsageError where
  | fileMissing
  /-- A word that is no option and cannot be a file. -/
  | unknown (word : String)
  /-- An option without value, or with one that it cannot have. -/
  | invalidValue (option : String)
  | invalidVersion (error : VersionError)
  /-- A value that must be a text and is none. -/
  | notText (option : String)
  | repeated (option : String)
  /-- A value for an option that has none. -/
  | needlessValue (option : String)
  | commandMissing
  | unknownCommand (word : String)
  | helpWanted
  | versionWanted
deriving DecidableEq

/-- What an error says. -/
def UsageError.message : UsageError → String
  | fileMissing => "no file is given"
  | unknown word => "unexpected argument " ++ Text.quoted word
  | invalidValue option => "invalid or missing value for " ++ option
  | invalidVersion error => error.message
  | notText option => "the value for " ++ option ++ " is no text"
  | repeated option => option ++ " is given more than once"
  | needlessValue option => option ++ " takes no value"
  | commandMissing => "no command is given"
  | unknownCommand word => "unknown command " ++ Text.quoted word
  | helpWanted => ""
  | versionWanted => ""

/-- The options. -/
inductive Opt where
  | table
  | tablesDir
  | standardVersion
  | checkOptional
  | checkExtras
  | quiet
  | format
  | config
  | verbose
  | help
  | version
deriving DecidableEq

namespace Opt

/-- The long name of an option. -/
def long : Opt → String
  | table => "table"
  | tablesDir => "tables-dir"
  | standardVersion => "standard-version"
  | checkOptional => "check-optional"
  | checkExtras => "check-extras"
  | quiet => "quiet"
  | format => "format"
  | config => "config"
  | verbose => "verbose"
  | help => "help"
  | version => "version"

/-- The letter of an option. -/
def short? : Opt → Option Char
  | quiet => some 'q'
  | verbose => some 'v'
  | help => some 'h'
  | version => some 'V'
  | _ => none

/-- Whether an option has a value. -/
def takesValue : Opt → Bool
  | table | tablesDir | standardVersion | format | config => true
  | _ => false

/-- An option as messages name it. -/
def text (o : Opt) : String := "--" ++ o.long

end Opt

/-- What a command line sets. -/
structure Arguments where
  files : List FilePath
  table : Option FilePath
  tablesDirectory : Option FilePath
  version : Option Version
  checkOptional : Bool
  checkExtras : Bool
  quiet : Bool
  format : Option OutputFormat
  settingsFile : Option FilePath
  /-- How many times more detailed messages are asked for. -/
  verbosity : Nat
deriving DecidableEq

namespace Arguments

/-- What an empty command line sets. -/
def none : Arguments where
  files := []
  table := .none
  tablesDirectory := .none
  version := .none
  checkOptional := false
  checkExtras := false
  quiet := false
  format := .none
  settingsFile := .none
  verbosity := 0

/-- Whether an option is set that may be set only once. -/
def has (a : Arguments) : Opt → Bool
  | .table => a.table.isSome
  | .tablesDir => a.tablesDirectory.isSome
  | .standardVersion => a.version.isSome
  | .checkOptional => a.checkOptional
  | .checkExtras => a.checkExtras
  | .quiet => a.quiet
  | .format => a.format.isSome
  | .config => a.settingsFile.isSome
  | .verbose | .help | .version => false

/-- A value that is a path; it must not be empty. -/
def path (o : Opt) (value : RawText) : Except UsageError FilePath :=
  if value.units = [] then .error (.invalidValue o.text) else .ok value

/-- The arguments after an option is set to a value; options without values pass it over. -/
def assign (a : Arguments) (o : Opt) (value : RawText) : Except UsageError Arguments :=
  match o with
  | .table => (path o value).map fun p => { a with table := some p }
  | .tablesDir => (path o value).map fun p => { a with tablesDirectory := some p }
  | .config => (path o value).map fun p => { a with settingsFile := some p }
  | .standardVersion =>
    match value.toText? with
    | some s => ((Version.parse s).mapError .invalidVersion).map fun v => { a with version := some v }
    | .none => .error (.notText o.text)
  | .format =>
    match value.toText?.bind OutputFormat.ofName? with
    | some f => .ok { a with format := some f }
    | .none => .error (.invalidValue o.text)
  | .checkOptional => .ok { a with checkOptional := true }
  | .checkExtras => .ok { a with checkExtras := true }
  | .quiet => .ok { a with quiet := true }
  | .verbose => .ok { a with verbosity := a.verbosity + 1 }
  | .help => .error .helpWanted
  | .version => .error .versionWanted

/-- The arguments after an option is set, which most options can be only once. -/
def set (a : Arguments) (o : Opt) (value : RawText) : Except UsageError Arguments :=
  if a.has o then .error (.repeated o.text) else a.assign o value

/-- The arguments with more files, whose names must not be empty. -/
def addFiles (a : Arguments) (files : List FilePath) : Except UsageError Arguments :=
  if files.any (·.units = []) then .error (.invalidValue "FILE")
  else .ok { a with files := a.files ++ files }

end Arguments

end RadarConform
