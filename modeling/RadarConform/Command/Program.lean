import RadarConform.Command.Reading
import RadarConform.Command.Table

/-!
# The program

The first word that is neither an option nor the value of one names the command; options that every
command has may stand before and after it.

* `Invocation`: what a command line asks for, read by `Invocation.parse`.
* `Invocation.run`: what it does.
* `Program.run`: the output and exit code for a command line.
-/

namespace RadarConform

/-- What a command line asks for. -/
inductive Invocation where
  | check (a : Arguments)
  | table (file : FilePath) (a : Arguments)
deriving DecidableEq

/-- Why the program cannot do what it is asked to. -/
inductive ProgramError where
  | usage (error : UsageError)
  | settings (error : SettingsError)
  | command (error : CommandError)

/-- The message of an error. -/
def ProgramError.message : ProgramError → String
  | usage error => error.message
  | settings error => error.message
  | command error => error.message

namespace Invocation

/-- The arguments of an invocation. -/
def arguments : Invocation → Arguments
  | check a => a
  | table _ a => a

/-- Reads the words of the command that checks files. -/
def parseCheck (more : List Opt) (argv : List RawText) : Except UsageError Invocation :=
  (readCommand (checkOptions ++ more) none argv).map check

/-- Reads the words of the command that names a table. -/
def parseTable (more : List Opt) (argv : List RawText) : Except UsageError Invocation := do
  let a ← readCommand (tableOptions ++ more) (some 1) argv
  match a.files with
  | file :: _ => return table file a
  | [] => .error .fileMissing

/-- The command of a name, with the words after it. -/
def parseCommand (name : RawText) (argv : List RawText) : Except UsageError Invocation :=
  match name.toText? with
  | some "check" => parseCheck commonOptions argv
  | some "table" => parseTable commonOptions argv
  | _ => .error (.unknownCommand name.shown)

/-- The same invocation with the settings file of other arguments, unless it names one itself. -/
def withSettingsOf (outer : Arguments) : Invocation → Invocation
  | check a => check (inherit a)
  | table file a => table file (inherit a)
where
  inherit (a : Arguments) : Arguments :=
    { a with
      settingsFile := a.settingsFile <|> outer.settingsFile
      verbosity := if a.verbosity = 0 then outer.verbosity else a.verbosity }

/-- The options before a command. -/
def outerOptions : List Opt := [.config, .verbose, .help, .version]

/-- Reads the options before a command, and the command. -/
def parseFrom (r : Reading) : List RawText → Except UsageError Invocation
  | [] => r.settle.bind fun _ => .error .commandMissing
  | w :: rest =>
    match Word.of w, r.pending with
    | .separator, _ => .error (.unknown w.shown)
    | .long name value, _ => do parseFrom (← r.long outerOptions name value) rest
    | .shorts letters, _ => do parseFrom (← r.shorts outerOptions letters) rest
    | .plain s, .option o none => parseFrom { r with pending := .option o (some s) } rest
    | .plain s, _ => do
      let invocation ← parseCommand s rest
      let r ← r.settle
      return invocation.withSettingsOf r.arguments

/-- Reads a command line. -/
def parse (argv : List RawText) : Except UsageError Invocation := parseFrom .start argv

/-! ## Running -/

/-- Carries out an invocation under settings. -/
def run (store : FileStore) (settings : Settings) : Invocation → Logged CommandError Output
  | check a => runCheck store a settings
  | table file a => runTable store file a settings

/-- Loads the settings and carries out an invocation under them. -/
def execute (store : FileStore) (i : Invocation) : Logged ProgramError Output := do
  let settings ← (Settings.load store i.arguments.settingsFile).mapError ProgramError.settings
  (i.run store settings).mapError .command

/-! ## Files that are read -/

/-- The files that an invocation reads before it chooses tables. -/
def inputs (i : Invocation) : List FilePath := i.arguments.settingsFile.toList ++ i.arguments.files

/-- The tables that an invocation reads or looks for, once its other files are known. -/
def tables (store : FileStore) (i : Invocation) : List FilePath :=
  match Settings.load store i.arguments.settingsFile with
  | .error _ => []
  | .ok settings =>
    i.arguments.files.filterMap fun file => do
      let layout ← (Layout.load store file).outcome.toOption
      let locator := settings.locator i.arguments.tablesDirectory
      (chooseTable i.arguments locator layout).outcome.toOption

end Invocation

namespace Program

/-- The name of the program with its version. -/
def versionText : String := "odv 0.1.0\n"

/-- The output of a program that cannot do what it is asked to. -/
def failure : Output := { code := 2, text := "" }

/-- The output for an error.  Asking for the version is none. -/
def outputOfError : ProgramError → Output
  | .usage .versionWanted => { code := 0, text := versionText }
  | .usage .helpWanted => { code := 0, text := "" }
  | _ => failure

/-- What the program does for a command line. -/
def run (store : FileStore) (argv : List RawText) : Logged ProgramError Output :=
  match Invocation.parse argv with
  | .error e => .ofExcept (.error (.usage e))
  | .ok i => i.execute store

/-- The output of the program for a command line. -/
def output (store : FileStore) (argv : List RawText) : Output :=
  match (run store argv).outcome with
  | .ok o => o
  | .error e => outputOfError e

end Program

end RadarConform
