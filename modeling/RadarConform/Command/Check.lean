import RadarConform.Command.Arguments
import RadarConform.Command.Error
import RadarConform.Comparison.Walk
import RadarConform.Exchange.Writing
import RadarConform.Snapshot.Reader
import RadarConform.Table.Reader

/-!
# Checking files

Every file is compared with its table: the one that is given, or the one that the file itself calls
for.  A table that several files have in common is loaded once.  The first failure ends the check;
a file that does not comply does not.  The result is put into its form when all files are checked,
and only then can it turn out that a path in it cannot be written.

* `Settings.options`: what is checked.
* `CheckedFile`: a file with its table and report.
* `checkFiles`: the check of all files.
* `textOutput`, `jsonOutput`: the two forms of its result.
* `outputFor`: the output in the form that is asked for, or why it has none.
* `runCheck`: the command.
-/

namespace RadarConform

/-- What a command prints and the code that it ends with. -/
structure Output where
  code : Nat
  text : String
deriving DecidableEq

/-- What is checked: what the settings or the command line ask for.  Single steps are reported only
if neither forbids it. -/
def Settings.options (s : Settings) (a : Arguments) : CompareOptions where
  checkOptional := a.checkOptional || s.checkOptional
  checkExtras := a.checkExtras || s.checkExtras
  info := !(a.quiet || !s.info)

/-- A file with the table it was compared with and the result. -/
structure CheckedFile where
  file : FilePath
  table : FilePath
  report : Report

/-! ## The check -/

/-- Tables under the paths that they were loaded from. -/
abbrev LoadedTables := List (FilePath × RuleTable)

/-- A table, loaded unless it is there. -/
def LoadedTables.load (tables : LoadedTables) (store : FileStore) (path : FilePath) :
    Logged TableError (RuleTable × LoadedTables) :=
  match tables.find? (FilePath.same path ·.1) with
  | some (_, table) => pure (table, tables)
  | none => do
    let table ← RuleTable.load store path
    return (table, (path, table) :: tables)

/-- The path of the table for a layout: the one that is given, or the one that it calls for. -/
def chooseTable (a : Arguments) (locator : TableLocator) (layout : Layout) :
    Logged TableError FilePath :=
  match a.table with
  | some path => pure path
  | none => locator.resolve layout a.version

/-- Reports that a file and its table belong to different revisions, unless one was asked for. -/
def reportVersions (a : Arguments) (file : FilePath) (layout : Layout) (table : RuleTable) :
    Logged CommandError Unit :=
  match a.version, layout.declaredVersion, table.version with
  | none, some declared, some stated =>
    .reportIf (declared != stated) (.versionsDiffer file.shown declared stated)
  | _, _, _ => pure ()

/-- Checks one file. -/
def checkFile (store : FileStore) (a : Arguments) (settings : Settings) (tables : LoadedTables)
    (file : FilePath) : Logged CommandError (CheckedFile × LoadedTables) := do
  let layout ← (Layout.load store file).mapError (.layout file.shown)
  let path ← (chooseTable a (settings.locator a.tablesDirectory) layout).mapError
    (.choice file.shown)
  let (table, tables) ← (tables.load store path).mapError (.table file.shown)
  reportVersions a file layout table
  .report (.checkingFile file.shown path.shown layout.nodes.length table.rules.length)
  let report ← (compare layout table (settings.options a)).mapError
    (.comparison file.shown path.shown)
  return ({ file, table := path, report }, tables)

/-- Checks files one after the other. -/
def checkFiles (store : FileStore) (a : Arguments) (settings : Settings) (tables : LoadedTables) :
    List FilePath → Logged CommandError (List CheckedFile)
  | [] => pure []
  | file :: rest => do
    let (first, tables) ← checkFile store a settings tables file
    let later ← checkFiles store a settings tables rest
    return first :: later

/-! ## Output -/

/-- The lines for one file. -/
def CheckedFile.lines (c : CheckedFile) : List String :=
  if c.report.isCompliant then
    [c.file.shown ++ ": compliant with " ++ c.table.shown ++ " (" ++ toString c.report.rulesChecked
      ++ " rules, " ++ toString c.report.nodesObserved ++ " nodes)"]
  else
    (c.file.shown ++ ": NOT compliant with " ++ c.table.shown ++ ": "
      ++ toString c.report.violations.length ++ " violation(s)")
    :: c.report.violations.map ("  FAIL: " ++ ·.text)

/-- The result as lines: those for every file, and one that counts the files that comply. -/
def textOutput (files : List CheckedFile) : String :=
  let passed := files.countP (·.report.isCompliant)
  let summary :=
    "Files: " ++ toString passed ++ "/" ++ toString files.length ++ " compliant"
  String.join ((files.flatMap CheckedFile.lines ++ [summary]).map (· ++ "\n"))

/-- The JSON form of a path, which must be a text. -/
def FilePath.json (path : FilePath) : Except OutputFault Json :=
  match path.toText? with
  | some s => .ok (.text s)
  | none => .error .foreignPath

/-- The JSON form of the result for one file. -/
def CheckedFile.json (c : CheckedFile) : Except OutputFault Json := do
  let file ← FilePath.json c.file
  let table ← FilePath.json c.table
  return .record [("file", file), ("table", table), ("report", c.report.json)]

/-- The result as a JSON text. -/
def jsonOutput (files : List CheckedFile) : Except OutputFault String := do
  let results ← files.mapM CheckedFile.json
  return (Json.list results).pretty ++ "\n"

/-- The code for files that all comply, and the one for others. -/
def codeFor (files : List CheckedFile) : Nat :=
  if files.all (·.report.isCompliant) then 0 else 1

/-- What is printed for checked files. -/
def outputText (files : List CheckedFile) : OutputFormat → Except OutputFault String
  | .text => .ok (textOutput files)
  | .json => jsonOutput files

/-- The output for checked files. -/
def outputFor (format : OutputFormat) (files : List CheckedFile) : Except OutputFault Output :=
  (outputText files format).map fun text => { code := codeFor files, text }

/-- Checks the files of a command line and prints the result. -/
def runCheck (store : FileStore) (a : Arguments) (settings : Settings) :
    Logged CommandError Output := do
  .reportIf (a.table.isSome && a.version.isSome) .versionIgnored
  let files ← checkFiles store a settings [] a.files
  (outputFor (a.format.getD .text) files).mapError CommandError.output

end RadarConform
