import RadarConform.Command.Program
import RadarConform.Proofs.Command.Output
import RadarConform.Proofs.Command.SharedTables
import RadarConform.Proofs.Comparison.Run

/-!
# Checking many files at once

A check of many files is the checks of the single files, one after the other.  The result is printed
when all files are checked, so what keeps it from being printed shows last.

* `runResults`, `outcome_runCheck` — the results of a run, and what the run makes of them.
* `ChecksFile` — that a run on one file gets as far as printing; `checksFile_iff`.
* `RunFails` — a run that fails and prints nothing.
* `runCheck_batch` — **a run on many files is its runs on single files**: it fails as the first of
  these that cannot check its file, or else as those that cannot print their result, and otherwise
  its results are theirs.
* `not_failsAsFirst` — it need not fail as the first single run that fails.
-/

namespace RadarConform

variable {store : FileStore} {a : Arguments} {settings : Settings}

/-! ## The whole run -/

/-- The results of a run: every file with its table and report. -/
def runResults (store : FileStore) (a : Arguments) (settings : Settings) :
    Except CommandError (List CheckedFile) :=
  (checkFiles store a settings [] a.files).outcome

lemma runResults_eq_mapM (halike : TablesReadAlike store a settings) :
    runResults store a settings = a.files.mapM (checkAlone store a settings) :=
  outcome_checkFiles halike (LoadedTables.fresh_nil store a settings) fun _ hf => hf

lemma runResults_only (store : FileStore) (a : Arguments) (settings : Settings) (file : FilePath) :
    runResults store (a.only file) settings = (checkAlone store a settings file).map ([·]) := by
  rw [runResults_eq_mapM (tablesReadAlike_only store a settings file)]
  change [file].mapM (checkAlone store a settings) = _
  rw [List.mapM_cons, List.mapM_nil]
  cases checkAlone store a settings file <;> rfl

lemma outcome_runCheck (store : FileStore) (a : Arguments) (settings : Settings) :
    (runCheck store a settings).outcome = (runResults store a settings).bind fun checked =>
      (outputFor (a.format.getD .text) checked).mapError .output := by
  rw [runCheck, Logged.outcome_bind, Logged.outcome_reportIf, Except.bind_ok, Logged.outcome_bind,
    runResults]
  rfl

lemma outcome_runCheck_only (store : FileStore) (a : Arguments) (settings : Settings)
    (file : FilePath) :
    (runCheck store (a.only file) settings).outcome
      = (checkAlone store a settings file).bind fun c =>
          (outputFor (a.format.getD .text) [c]).mapError .output := by
  rw [outcome_runCheck, runResults_only]
  cases checkAlone store a settings file <;> rfl

variable {file : FilePath} {c : CheckedFile} {error : CommandError}

/-! ## Runs on single files -/

/-- The run on one file by itself checks it: nothing keeps it from succeeding but a path that cannot
be printed. -/
def ChecksFile (store : FileStore) (a : Arguments) (settings : Settings) (file : FilePath) : Prop :=
  ∀ error, (runCheck store (a.only file) settings).outcome = .error error →
    error = .output .foreignPath

lemma ChecksFile.of_ok
    (h : ∃ single, (runCheck store (a.only file) settings).outcome = .ok single) :
    ChecksFile store a settings file := by
  obtain ⟨single, hsingle⟩ := h
  intro error herror
  cases hsingle.symm.trans herror

/-- The run on one file fails with the error of its check, which is not one of printing. -/
lemma runCheck_only_of_error (h : checkAlone store a settings file = .error error) :
    (runCheck store (a.only file) settings).outcome = .error error := by
  rw [outcome_runCheck_only, h]
  rfl

/-- The run on one file that is checked prints its result, or that fails. -/
lemma runCheck_only_of_ok (h : checkAlone store a settings file = .ok c) :
    (runCheck store (a.only file) settings).outcome
      = (outputFor (a.format.getD .text) [c]).mapError .output := by
  rw [outcome_runCheck_only, h]
  rfl

lemma checksFile_iff :
    ChecksFile store a settings file ↔ ∃ c, checkAlone store a settings file = .ok c := by
  constructor
  · intro h
    cases hfile : checkAlone store a settings file with
    | ok c => exact ⟨c, rfl⟩
    | error error =>
        exact absurd (h error (runCheck_only_of_error hfile)) (ne_output_of_checkAlone hfile _)
  · rintro ⟨c, hc⟩ error herror
    rw [runCheck_only_of_ok hc, Except.mapError_eq_error_iff] at herror
    obtain ⟨fault, -, rfl⟩ := herror
    cases fault
    rfl

/-- A run that fails at anything but printing fails at its check. -/
lemma checkAlone_of_runCheck_only
    (h : (runCheck store (a.only file) settings).outcome = .error error)
    (hne : error ≠ .output .foreignPath) : checkAlone store a settings file = .error error := by
  cases hfile : checkAlone store a settings file with
  | ok c => exact absurd (checksFile_iff.mpr ⟨c, hfile⟩ error h) hne
  | error e =>
      rw [runCheck_only_of_error hfile] at h
      cases h
      rfl

lemma mapError_output_eq_error_iff {x : Except OutputFault Output} :
    x.mapError CommandError.output = .error (.output .foreignPath) ↔ x = .error .foreignPath := by
  rw [Except.mapError_eq_error_iff]
  constructor
  · rintro ⟨fault, h, -⟩
    cases fault
    exact h
  · exact fun h => ⟨.foreignPath, h, rfl⟩

lemma getD_text_eq_json_iff {format : Option OutputFormat} :
    format.getD .text = .json ↔ format = some .json := by
  cases format with
  | none => exact ⟨nofun, nofun⟩
  | some format => exact Option.some_inj.symm

/-- **The result for one file cannot be printed** exactly if it is asked for as JSON and the path of
the file or of its table is no text. -/
lemma runCheck_only_eq_output_iff :
    (runCheck store (a.only file) settings).outcome = .error (.output .foreignPath) ↔
      a.format = some .json ∧ ∃ c, checkAlone store a settings file = .ok c ∧ c.Foreign := by
  cases hfile : checkAlone store a settings file with
  | error error =>
      rw [runCheck_only_of_error hfile]
      constructor
      · intro h
        cases h
        exact absurd rfl (ne_output_of_checkAlone hfile .foreignPath)
      · rintro ⟨-, _, h, -⟩
        cases h
  | ok c =>
      rw [runCheck_only_of_ok hfile, mapError_output_eq_error_iff, outputFor_eq_error_iff,
        getD_text_eq_json_iff]
      simp

/-! ## The whole run fails -/

/-- A check fails with an error, and the program prints nothing. -/
structure RunFails (store : FileStore) (a : Arguments) (settings : Settings) (error : CommandError) :
    Prop where
  outcome_eq : (runCheck store a settings).outcome = .error error
  silent : ∀ argv, Invocation.parse argv = .ok (.check a) →
    Settings.load store a.settingsFile = .ok settings → Program.output store argv = Program.failure

lemma RunFails.of_outcome (h : (runCheck store a settings).outcome = .error error) :
    RunFails store a settings error := by
  refine ⟨h, fun argv hargv hsettings => ?_⟩
  have hrun : (Program.run store argv).outcome = .error (.command error) := by
    simp only [Program.run, hargv, Invocation.execute, Invocation.run, Invocation.arguments,
      Logged.outcome_bind, Logged.outcome_mapError, Logged.outcome_liftM, hsettings, h,
      Except.mapError_ok, Except.bind_ok]
    rfl
  rw [Program.output, hrun]
  rfl

/-- The first file that cannot be checked ends the run with its error. -/
lemma runCheck_of_first (halike : TablesReadAlike store a settings) {before after : List FilePath}
    (hfiles : a.files = before ++ file :: after)
    (hbefore : ∀ f ∈ before, ∃ c, checkAlone store a settings f = .ok c)
    (hfile : checkAlone store a settings file = .error error) :
    (runCheck store a settings).outcome = .error error := by
  rw [outcome_runCheck, runResults_eq_mapM halike, hfiles,
    Except.mapM_eq_error_of_first hbefore hfile]
  rfl

/-! ## The whole run succeeds -/

section

variable {checked : List CheckedFile}
  (hchecked : List.Forall₂ (fun f c => checkAlone store a settings f = .ok c) a.files checked)
include hchecked

lemma runResults_of_forall₂ (halike : TablesReadAlike store a settings) :
    runResults store a settings = .ok checked := by
  rw [runResults_eq_mapM halike, Except.mapM_eq_ok_iff]
  exact hchecked

lemma runCheck_of_forall₂ (halike : TablesReadAlike store a settings) :
    (runCheck store a settings).outcome
      = (outputFor (a.format.getD .text) checked).mapError .output := by
  rw [outcome_runCheck, runResults_of_forall₂ hchecked halike]
  rfl

/-- **Files that are all checked cannot be printed** exactly if one of them cannot be. -/
lemma runCheck_eq_output_iff_runs (halike : TablesReadAlike store a settings) :
    (runCheck store a settings).outcome = .error (.output .foreignPath) ↔ ∃ f ∈ a.files,
      (runCheck store (a.only f) settings).outcome = .error (.output .foreignPath) := by
  rw [runCheck_of_forall₂ hchecked halike, mapError_output_eq_error_iff, outputFor_eq_error_iff,
    getD_text_eq_json_iff]
  simp only [runCheck_only_eq_output_iff]
  constructor
  · rintro ⟨hjson, c, hmem, hc⟩
    obtain ⟨f, hf, hfile⟩ := exists_of_forall₂ hchecked.flip hmem
    exact ⟨f, hf, hjson, c, hfile, hc⟩
  · rintro ⟨f, hf, hjson, c, hfile, hc⟩
    obtain ⟨c', hmem, hfile'⟩ := exists_of_forall₂ hchecked hf
    cases hfile.symm.trans hfile'
    exact ⟨hjson, c, hmem, hc⟩

/-- Files that are all checked and can all be printed are printed together. -/
lemma exists_output_of_runs (halike : TablesReadAlike store a settings)
    (hruns : ∀ f ∈ a.files, ∃ single, (runCheck store (a.only f) settings).outcome = .ok single) :
    ∃ output, (runCheck store a settings).outcome = .ok output ∧
      outputFor (a.format.getD .text) checked = .ok output := by
  have hrun := runCheck_of_forall₂ hchecked halike
  have hprinted : ¬ (a.format.getD .text = .json ∧ ∃ c ∈ checked, c.Foreign) := by
    intro h
    rw [outputFor_eq_error_iff.mpr h] at hrun
    obtain ⟨f, hf, hforeign⟩ := (runCheck_eq_output_iff_runs hchecked halike).mp hrun
    obtain ⟨single, hsingle⟩ := hruns f hf
    cases hsingle.symm.trans hforeign
  obtain ⟨output, houtput⟩ := exists_outputFor hprinted
  rw [houtput] at hrun
  exact ⟨output, hrun, houtput⟩

/-- The code for many files is 0 exactly if the codes for the single files are. -/
lemma codeFor_eq_zero_iff_runs
    (hruns : ∀ f ∈ a.files, ∃ single, (runCheck store (a.only f) settings).outcome = .ok single) :
    codeFor checked = 0 ↔ ∀ f ∈ a.files, ∃ single,
      (runCheck store (a.only f) settings).outcome = .ok single ∧ single.code = 0 := by
  -- The code of a single run is that for its only result.
  have hsingle : ∀ f c, checkAlone store a settings f = .ok c → ∀ single,
      (runCheck store (a.only f) settings).outcome = .ok single →
        (single.code = 0 ↔ c.report.isCompliant = true) := by
    intro f c hc single hrun
    rw [runCheck_only_of_ok hc, Except.mapError_eq_ok_iff] at hrun
    rw [code_of_outputFor hrun, codeFor_eq_zero_iff, List.forall_mem_singleton]
  rw [codeFor_eq_zero_iff]
  constructor
  · intro hcompliant f hf
    obtain ⟨c, hmem, hc⟩ := exists_of_forall₂ hchecked hf
    obtain ⟨single, hrun⟩ := hruns f hf
    exact ⟨single, hrun, (hsingle f c hc single hrun).mpr (hcompliant c hmem)⟩
  · intro hzero c hmem
    obtain ⟨f, hf, hc⟩ := exists_of_forall₂ hchecked.flip hmem
    obtain ⟨single, hrun, hcode⟩ := hzero f hf
    exact (hsingle f c hc single hrun).mp hcode

end

/-- **A run on many files is its runs on the single files**, as long as the spellings of one path of
a table are read alike.  If one of the single runs cannot check its file, the run fails as the first
such one, whether or not earlier ones could be printed.  If all files are checked but one of the
single runs cannot print its result, since the path of the file or of its table is no text, the run
fails in the same way.  Either way the program prints nothing.  Otherwise the run succeeds, its
results are those of the single files in order, and its code is 0 exactly if all of theirs are,
else 1. -/
theorem runCheck_batch (halike : TablesReadAlike store a settings) :
    (∀ before file after error, a.files = before ++ file :: after →
      (∀ f ∈ before, ChecksFile store a settings f) →
      (runCheck store (a.only file) settings).outcome = .error error →
      error ≠ .output .foreignPath → RunFails store a settings error) ∧
    ((∀ f ∈ a.files, ChecksFile store a settings f) →
      ∃ checked, runResults store a settings = .ok checked ∧
        List.Forall₂ (fun f c => c.file = f ∧ runResults store (a.only f) settings = .ok [c])
          a.files checked ∧
        ((∃ f ∈ a.files,
            (runCheck store (a.only f) settings).outcome = .error (.output .foreignPath)) →
          RunFails store a settings (.output .foreignPath)) ∧
        ((∀ f ∈ a.files, ∃ single, (runCheck store (a.only f) settings).outcome = .ok single) →
          ∃ output, (runCheck store a settings).outcome = .ok output ∧
            outputFor (a.format.getD .text) checked = .ok output ∧
            (output.code = 0 ∨ output.code = 1) ∧
            (output.code = 0 ↔ ∀ f ∈ a.files, ∃ single,
              (runCheck store (a.only f) settings).outcome = .ok single ∧ single.code = 0))) ∧
    ∀ file, (runCheck store (a.only file) settings).outcome = .error (.output .foreignPath) ↔
      a.format = some .json ∧
        ∃ c, runResults store (a.only file) settings = .ok [c] ∧ c.Foreign := by
  refine ⟨fun before file after error hfiles hbefore herror hne => ?_, fun hall => ?_,
    fun file => ?_⟩
  · exact .of_outcome (runCheck_of_first halike hfiles
      (fun f hf => checksFile_iff.mp (hbefore f hf)) (checkAlone_of_runCheck_only herror hne))
  · obtain ⟨checked, hall⟩ := Except.exists_mapM_eq_ok fun f hf => checksFile_iff.mp (hall f hf)
    have hchecked := Except.mapM_eq_ok_iff.mp hall
    refine ⟨checked, runResults_of_forall₂ hchecked halike, ?_, ?_, fun hruns => ?_⟩
    · refine hchecked.imp fun f c hc => ⟨file_of_checkAlone hc, ?_⟩
      rw [runResults_only, hc]
      rfl
    · exact fun hforeign => .of_outcome ((runCheck_eq_output_iff_runs hchecked halike).mpr hforeign)
    · obtain ⟨output, hrun, houtput⟩ := exists_output_of_runs hchecked halike hruns
      refine ⟨output, hrun, houtput, ?_⟩
      rw [code_of_outputFor houtput]
      exact ⟨codeFor_eq_zero_or_one checked, codeFor_eq_zero_iff_runs hchecked hruns⟩
  · rw [runCheck_only_eq_output_iff, runResults_only]
    refine and_congr_right fun _ => exists_congr fun c => and_congr_left fun _ => ?_
    rw [Except.map_eq_ok_iff]
    simp

/-! ## Files that share a table -/

/-- The outcome of a check of one file that prints text. -/
lemma exists_run_of_checkAlone (files : List FilePath) (hformat : a.format = none)
    {compliant : Bool}
    (h : (checkAlone store a settings file).toOption.map (·.report.isCompliant) = some compliant) :
    ∃ output, (runCheck store ({ a with files }.only file) settings).outcome = .ok output ∧
      (output.code = 0 ↔ compliant = true) := by
  obtain ⟨c, hc, rfl⟩ := Option.map_eq_some_iff.mp h
  have hrun := runCheck_only_of_ok (Except.toOption_eq_some_iff.mp hc)
  rw [hformat] at hrun
  exact ⟨_, hrun, codeFor_eq_zero_iff.trans List.forall_mem_singleton⟩

/-- Two layouts that call for one table under two spellings of its path, and one that declares no
revision. -/
def sharedStore : FileStore := .ofList [
  ("plain.json", some "\x7b\"/what/object\": \"Q/R\", \"/what/version\": \"H5rad 2.1\"\x7d"),
  ("dotted.json", some "\x7b\"/what/object\": \"Q/./R\", \"/what/version\": \"H5rad 2.1\",
    \"/how/gain\": 2\x7d"),
  ("bare.json", some "\x7b\"/what/object\": \"Q/R\"\x7d"),
  ("data/ODIM_H5_V2_1_Q/R.csv",
    some "Node;Category;Type;IsMandatory;PossibleValues\n/how/gain;attribute;real;TRUE;")]

/-- A check of files with tables from one directory. -/
def checkOf (files : List FilePath) : Arguments :=
  { Arguments.none with files, tablesDirectory := some "data" }

lemma tablesReadAlike_shared (files : List FilePath) :
    TablesReadAlike sharedStore (checkOf files) .standard :=
  tablesReadAlike_of_readsNames (FileStore.readsNames_ofList _) _ _

lemma checkAlone_shared_plain :
    (checkAlone sharedStore (checkOf []) .standard "plain.json").toOption.map
      (·.report.isCompliant) = some false := by
  simp only [checkAlone, Comparison.outcome_compare_found]
  decide +kernel

lemma checkAlone_shared_dotted :
    (checkAlone sharedStore (checkOf []) .standard "dotted.json").toOption.map
      (·.report.isCompliant) = some true := by
  simp only [checkAlone, Comparison.outcome_compare_found]
  decide +kernel

/-- What the layout that declares no revision shows. -/
def bareLayout : Layout where
  nodes := [
    { location := .container ["what"], value := none, implied := true },
    { location := .ofAttribute ["what"] "object", value := some (.text "Q/R"), implied := false }]

/-- A name in which a byte stands that is the code of no character. -/
def foreignFile : FilePath := { units := [.stray [0xFF]] } ++ ".json"

/-- Two layouts, one of them under that name, and a table. -/
def foreignStore : FileStore := .ofList [
  (foreignFile, some "\x7b\"/how#gain\": 1\x7d"), ("named.json", some "\x7b\"/how#gain\": 1\x7d"),
  ("table.csv", some "Node;Category;Type;IsMandatory;PossibleValues\n")]

/-- A check of files with the table, printed as JSON. -/
def foreignArguments (files : List FilePath) : Arguments :=
  { Arguments.none with files, table := some "table.csv", format := some .json }

lemma tablesReadAlike_foreign (files : List FilePath) :
    TablesReadAlike foreignStore (foreignArguments files) .standard :=
  tablesReadAlike_of_readsNames (FileStore.readsNames_ofList _) _ _

lemma checkAlone_foreign : ∀ file ∈ [foreignFile, "named.json"],
    (checkAlone foreignStore (foreignArguments []) .standard file).toOption.map (·.file)
      = some file := by
  simp only [checkAlone, Comparison.outcome_compare_found]
  decide +kernel

/-- The result for the file with that name cannot be printed. -/
lemma runCheck_only_foreign (files : List FilePath) :
    (runCheck foreignStore ((foreignArguments files).only foreignFile) .standard).outcome
      = .error (.output .foreignPath) := by
  obtain ⟨c, hc, hfile⟩ := Option.map_eq_some_iff.mp (checkAlone_foreign _ List.mem_cons_self)
  refine runCheck_only_eq_output_iff.mpr ⟨rfl, c, Except.toOption_eq_some_iff.mp hc, .inl ?_⟩
  rw [hfile]
  decide

/-- Two files that share a table are checked as they are by themselves, and a file between them for
which no table can be chosen ends the run with its error.  A file whose name is no text keeps another
one from being printed. -/
theorem runCheck_batch_of_sharedTable :
    TablesReadAlike sharedStore (checkOf ["dotted.json", "plain.json"]) .standard ∧
    (∃ output, (runCheck sharedStore (checkOf ["dotted.json", "plain.json"]) .standard).outcome
      = .ok output ∧ output.code = 1) ∧
    RunFails sharedStore (checkOf ["plain.json", "bare.json", "dotted.json"]) .standard
      (.choice "bare.json" (.unresolvable .noVersion)) ∧
    RunFails foreignStore (foreignArguments ["named.json", foreignFile]) .standard
      (.output .foreignPath) := by
  refine ⟨tablesReadAlike_shared _, ?_, ?_, ?_⟩
  · have hruns : ∀ f ∈ (checkOf ["dotted.json", "plain.json"]).files, ∃ single,
        (runCheck sharedStore ((checkOf ["dotted.json", "plain.json"]).only f) .standard).outcome
          = .ok single := by
      intro f hf
      rcases List.mem_pair.mp hf with rfl | rfl
      · exact (exists_run_of_checkAlone _ rfl checkAlone_shared_dotted).imp fun _ h => h.1
      · exact (exists_run_of_checkAlone _ rfl checkAlone_shared_plain).imp fun _ h => h.1
    obtain ⟨checked, -, -, -, hall⟩ :=
      (runCheck_batch (tablesReadAlike_shared _)).2.1 fun f hf => .of_ok (hruns f hf)
    obtain ⟨output, hok, -, hcode, hzero⟩ := hall hruns
    refine ⟨output, hok, hcode.resolve_left fun hcode => ?_⟩
    obtain ⟨single, hsingle, hsingleCode⟩ :=
      hzero.mp hcode "plain.json" (List.mem_cons_of_mem _ List.mem_cons_self)
    obtain ⟨single', hsingle', hcode'⟩ :=
      exists_run_of_checkAlone ["dotted.json", "plain.json"] rfl checkAlone_shared_plain
    cases hsingle.symm.trans hsingle'
    cases hcode'.mp hsingleCode
  · have hbare : (Layout.load sharedStore "bare.json").outcome = .ok bareLayout :=
      Except.toOption_eq_some_iff.mp (by decide +kernel)
    refine (runCheck_batch (tablesReadAlike_shared _)).1 ["plain.json"] "bare.json" ["dotted.json"]
      _ rfl (fun f hf => ?_) (runCheck_only_of_error ?_) nofun
    · cases List.mem_singleton.mp hf
      exact .of_ok ((exists_run_of_checkAlone _ rfl checkAlone_shared_plain).imp fun _ h => h.1)
    · rw [checkAlone, hbare]
      rfl
  · have hchecks : ∀ f ∈ (foreignArguments ["named.json", foreignFile]).files, ChecksFile
        foreignStore (foreignArguments ["named.json", foreignFile]) .standard f := by
      intro f hf
      obtain ⟨c, hc, -⟩ := Option.map_eq_some_iff.mp
        (checkAlone_foreign f (List.mem_pair.mpr (List.mem_pair.mp hf).symm))
      exact checksFile_iff.mpr ⟨c, Except.toOption_eq_some_iff.mp hc⟩
    obtain ⟨checked, -, -, hforeign, -⟩ :=
      (runCheck_batch (tablesReadAlike_foreign _)).2.1 hchecks
    exact hforeign ⟨foreignFile, List.mem_cons_of_mem _ List.mem_cons_self,
      runCheck_only_foreign _⟩

/-! ## Runs that do not fail as their first file -/

/-- A run on many files fails as the first single run that fails, at whatever it fails. -/
def FailsAsFirst (store : FileStore) (a : Arguments) (settings : Settings) : Prop :=
  ∀ before file after error, a.files = before ++ file :: after →
    (∀ f ∈ before, ∃ single, (runCheck store (a.only f) settings).outcome = .ok single) →
    (runCheck store (a.only file) settings).outcome = .error error →
      (runCheck store a settings).outcome = .error error

/-- The same files on a system where no path may be longer than so many characters. -/
def FileStore.upTo (most : Nat) (store : FileStore) : FileStore where
  read path :=
    if path.units.length ≤ most then store.read path
    else .error (.other "File name too long (os error 36)")

lemma checkAlone_upTo_plain :
    (checkAlone (sharedStore.upTo 25) (checkOf []) .standard "plain.json").toOption.map
      (·.report.isCompliant) = some false := by
  simp only [checkAlone, Comparison.outcome_compare_found]
  decide +kernel

/-- The second spelling is too long by itself. -/
lemma exists_error_upTo_dotted : ∃ error,
    checkAlone (sharedStore.upTo 25) (checkOf []) .standard "dotted.json" = .error error := by
  have hnone : (checkAlone (sharedStore.upTo 25) (checkOf []) .standard
      "dotted.json").toOption.isSome = false := by
    simp only [checkAlone, Comparison.outcome_compare_found]
    decide +kernel
  cases hdotted : checkAlone (sharedStore.upTo 25) (checkOf []) .standard "dotted.json" with
  | error error => exact ⟨error, rfl⟩
  | ok c =>
      rw [hdotted] at hnone
      cases hnone

/-- The table is found under the first spelling. -/
lemma exists_runResults_upTo : ∃ checked,
    runResults (sharedStore.upTo 25) (checkOf ["plain.json", "dotted.json"]) .standard
      = .ok checked := by
  have hsome : (runResults (sharedStore.upTo 25) (checkOf ["plain.json", "dotted.json"])
      .standard).toOption.isSome = true := by
    simp only [runResults, checkOf, checkFiles, Logged.outcome_bind, outcome_checkFile,
      Comparison.outcome_compare_found]
    decide +kernel
  obtain ⟨checked, h⟩ := Option.isSome_iff_exists.mp hsome
  exact ⟨checked, Except.toOption_eq_some_iff.mp h⟩

/-- **A run need not fail as the first single run that fails.**  A file whose name is no text cannot
be printed as JSON by itself, but with a file after it that is missing, the run fails at that.  And a
table under a path that is too long cannot be loaded, but with a file before it that calls for the
same table under a shorter path, the run succeeds. -/
theorem not_failsAsFirst :
    ¬ FailsAsFirst foreignStore (foreignArguments [foreignFile, "absent.json"]) .standard ∧
      ¬ FailsAsFirst (sharedStore.upTo 25) (checkOf ["plain.json", "dotted.json"]) .standard := by
  constructor
  · intro h
    have hrun := h [] foreignFile ["absent.json"] _ rfl nofun (runCheck_only_foreign _)
    have hforeign : ∀ f ∈ [foreignFile], ∃ c, checkAlone foreignStore
        (foreignArguments [foreignFile, "absent.json"]) .standard f = .ok c := by
      intro f hf
      obtain ⟨c, hc, -⟩ := Option.map_eq_some_iff.mp
        (checkAlone_foreign f (List.mem_cons.mpr (.inl (List.mem_singleton.mp hf))))
      exact ⟨c, Except.toOption_eq_some_iff.mp hc⟩
    have habsent : checkAlone foreignStore (foreignArguments [foreignFile, "absent.json"]) .standard
        "absent.json" = .error (.layout "absent.json" (.unreadable "absent.json" .absent)) := rfl
    cases hrun.symm.trans (runCheck_of_first (tablesReadAlike_foreign _) rfl hforeign habsent)
  · intro h
    obtain ⟨error, herror⟩ := exists_error_upTo_dotted
    have hrun := h ["plain.json"] "dotted.json" [] error rfl (fun f hf => by
      cases List.mem_singleton.mp hf
      exact (exists_run_of_checkAlone _ rfl checkAlone_upTo_plain).imp fun _ h => h.1)
      (runCheck_only_of_error herror)
    obtain ⟨checked, hchecked⟩ := exists_runResults_upTo
    rw [outcome_runCheck, hchecked] at hrun
    cases hrun

end RadarConform
