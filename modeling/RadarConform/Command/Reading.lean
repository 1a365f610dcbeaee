import RadarConform.Command.Arguments

/-!
# Reading a command line

The words of a command line are taken one after the other.  A word with two hyphens in front is an
option, one with a single hyphen holds the letters of options, and `--` makes all words after it
files.  The value of an option stands after `=` or in the next word, which then may not look like an
option.

A value in a word of its own and the names of files are looked at only when the next option comes,
or the end.  So of two mistakes, an unknown option is found before a bad value in front of it.

* `Word`: what a word is.
* `Reading`: the arguments so far.
* `readCommand`: the arguments of a command.
-/

namespace RadarConform

/-- What a word of a command line is. -/
inductive Word where
  | separator
  | long (name : RawText) (value : Option RawText)
  | shorts (letters : List RawUnit)
  | plain (s : RawText)

/-- What a word is; a lone hyphen is a plain word. -/
def Word.of (s : RawText) : Word :=
  match s.units with
  | [.char '-', .char '-'] => .separator
  | .char '-' :: .char '-' :: units =>
    match Text.cutOnce (· == RawUnit.char '=') units with
    | some (name, value) => .long { units := name } (some { units := value })
    | none => .long { units } none
  | .char '-' :: u :: units => .shorts (u :: units)
  | _ => .plain s

/-- What was read but not looked at. -/
inductive Pending where
  | nothing
  | option (o : Opt) (value : Option RawText)
  | files (names : List FilePath)

/-- The arguments that are set so far, and what is still pending. -/
structure Reading where
  arguments : Arguments
  pending : Pending

namespace Reading

/-- A command line of which nothing is read. -/
def start : Reading := { arguments := .none, pending := .nothing }

/-- Looks at what is pending. -/
def settle (r : Reading) : Except UsageError Reading :=
  match r.pending with
  | .nothing => .ok r
  | .option o none => .error (.invalidValue o.text)
  | .option o (some value) =>
    (r.arguments.set o value).map fun a => { arguments := a, pending := .nothing }
  | .files names =>
    (r.arguments.addFiles names).map fun a => { arguments := a, pending := .nothing }

/-- Sets an option, after what is pending. -/
def set (r : Reading) (o : Opt) (value : RawText) : Except UsageError Reading := do
  let r ← r.settle
  let a ← r.arguments.set o value
  return { r with arguments := a }

/-- Reads a long option. -/
def long (known : List Opt) (r : Reading) (name : RawText) (value : Option RawText) :
    Except UsageError Reading :=
  match known.find? (fun o => name == o.long) with
  | none => .error (.unknown ("--" ++ name.shown))
  | some o =>
    match o.takesValue, value with
    | true, some value => r.set o value
    | true, none => r.settle.map fun r => { r with pending := .option o none }
    | false, some _ => .error (.needlessValue o.text)
    | false, none => r.set o ""

/-- Reads the letters of options; no option with a letter has a value. -/
def shorts (known : List Opt) (r : Reading) : List RawUnit → Except UsageError Reading
  | [] => .ok r
  | u :: units =>
    match known.find? (fun o => o.short?.map .char == some u) with
    | none => .error (.unknown (.ofList ['-', u.shown]))
    | some o => do shorts known (← r.set o "") units

/-- The number of files read so far. -/
def fileCount (r : Reading) : Nat :=
  r.arguments.files.length +
    match r.pending with
    | .files names => names.length
    | _ => 0

/-- Reads a file, of which there may be only so many. -/
def file (most : Option Nat) (r : Reading) (name : FilePath) : Except UsageError Reading :=
  if most.any (· ≤ r.fileCount) then .error (.unknown name.shown)
  else
    match r.pending with
    | .files names => .ok { r with pending := .files (names ++ [name]) }
    | _ => r.settle.map fun r => { r with pending := .files [name] }

/-- Reads the words of a command. -/
def words (known : List Opt) (most : Option Nat) (r : Reading) :
    List RawText → Except UsageError Reading
  | [] => .ok r
  | w :: rest =>
    match Word.of w, r.pending with
    | .separator, _ => rest.foldlM (file most) r
    | .long name value, _ => do words known most (← r.long known name value) rest
    | .shorts letters, _ => do words known most (← r.shorts known letters) rest
    | .plain s, .option o none => words known most { r with pending := .option o (some s) } rest
    | .plain s, _ => do words known most (← r.file most s) rest

end Reading

/-- The arguments of a command with some options and at least one file. -/
def readCommand (known : List Opt) (most : Option Nat) (argv : List RawText) :
    Except UsageError Arguments := do
  let r ← Reading.words known most .start argv
  let r ← r.settle
  if r.arguments.files.isEmpty then .error .fileMissing else .ok r.arguments

/-- The options of the command that checks files. -/
def checkOptions : List Opt :=
  [.table, .tablesDir, .standardVersion, .checkOptional, .checkExtras, .quiet, .format, .help]

/-- The options of the command that names a table. -/
def tableOptions : List Opt := [.tablesDir, .standardVersion, .help]

/-- The options of every command. -/
def commonOptions : List Opt := [.config, .verbose]

end RadarConform
