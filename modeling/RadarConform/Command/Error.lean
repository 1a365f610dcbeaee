import RadarConform.Comparison.Report
import RadarConform.Settings
import RadarConform.Snapshot.Error
import RadarConform.Table.Error

/-!
# Errors of commands

* `OutputFault`: why a result has no JSON form.
* `CommandError`: why a command cannot be carried out.
-/

namespace RadarConform

/-- Why a result has no JSON form. -/
inductive OutputFault where
  /-- A path that is no text. -/
  | foreignPath
deriving DecidableEq

/-- What a fault says. -/
def OutputFault.message : OutputFault → String
  | foreignPath => "path contains invalid UTF-8 characters"

/-- Why a command cannot be carried out, with the file it was at. -/
inductive CommandError where
  | layout (file : String) (cause : LayoutError)
  | choice (file : String) (cause : TableError)
  | table (file : String) (cause : TableError)
  | comparison (file table : String) (cause : CompareError)
  /-- All files are checked, but the result cannot be printed. -/
  | output (cause : OutputFault)

namespace CommandError

/-- What the command was about to do. -/
def context : CommandError → String
  | layout file _ => "cannot load layout " ++ file
  | choice file _ => "cannot choose a table for " ++ file
  | table file _ => "cannot load table for " ++ file
  | comparison file path _ => "cannot check " ++ file ++ " against " ++ path
  | output _ => "failed to serialize reports"

/-- The messages of the errors that kept it from doing so, the outermost first. -/
def causes : CommandError → List String
  | layout _ cause => cause.chain
  | choice _ cause => cause.chain
  | table _ cause => cause.chain
  | comparison _ _ cause => cause.chain
  | output cause => [cause.message]

/-- The message of an error: the context and all causes. -/
def message (e : CommandError) : String := Text.joined ": " (e.context :: e.causes)

end CommandError

end RadarConform
