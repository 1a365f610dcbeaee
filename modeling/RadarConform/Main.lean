import RadarConform.Command.Program

/-!
# The command line

Reads the files that a command line names, carries it out on what was read, and prints the output.
Events and errors go to standard error.

* `main`: the program.
-/

namespace RadarConform

/-- The text of a file.  Only a path that is a text can be opened from here. -/
def readText (path : FilePath) : IO (Except ReadError String) := do
  match path.toText? with
  | none => return .error (.other "the path is no text")
  | some name =>
    try
      match String.fromUTF8? (← IO.FS.readBinFile name) with
      | some text => return .ok text
      | none => return .error .notText
    catch
      | .noFileOrDirectory .. => return .error .absent
      | e => return .error (.other (toString e))

/-- Files that were read, under their paths. -/
abbrev ReadFiles := List (FilePath × Except ReadError String)

/-- The files that were read with those under more paths. -/
def ReadFiles.load (files : ReadFiles) (paths : List FilePath) : IO ReadFiles := do
  let more ← paths.mapM fun path => return (path, ← readText path)
  return files ++ more

/-- The files that were read, as they stand for the check. -/
def ReadFiles.store (files : ReadFiles) : FileStore where
  read path := ((files.lookup path).getD (.error .absent))

/-- The files that a command line names: those that are given, then the tables they call for. -/
def gather (argv : List RawText) : IO FileStore := do
  match Invocation.parse argv with
  | .error _ => return (ReadFiles.store [])
  | .ok i =>
    let inputs ← ReadFiles.load [] i.inputs
    let all ← inputs.load (i.tables inputs.store)
    return all.store

/-- The value of a field in a line of the log. -/
def FieldValue.logged : FieldValue → String
  | .text s => s
  | .count n => toString n
  | .flag b => if b then "true" else "false"

/-- The line of the log for an event. -/
def Event.logLine (e : Event) : String :=
  Text.joined " "
    ([e.level.name, e.message] ++ e.fields.map fun f => f.1 ++ "=" ++ f.2.logged)

/-- How many times more detailed messages are asked for. -/
def verbosityOf (argv : List RawText) : Nat :=
  match Invocation.parse argv with
  | .ok i => i.arguments.verbosity
  | .error _ => 0

/-- Prints the events that are important enough and the error, if there is one. -/
def printLog (verbosity : Nat) (x : Logged ProgramError Output) : IO Unit := do
  for e in x.events do
    if e.level.rank ≤ verbosity then IO.eprintln e.logLine
  if let .error e := x.outcome then
    if e.message ≠ "" then IO.eprintln ("ERROR " ++ e.message)

end RadarConform

open RadarConform in
/-- Carries out a command line. -/
def main (words : List String) : IO UInt32 := do
  let argv := words.map RawText.ofText
  let store ← gather argv
  printLog (verbosityOf argv) (Program.run store argv)
  let output := Program.output store argv
  IO.print output.text
  return output.code.toUInt32
