import RadarConform.Command.Check
import RadarConform.Proofs.Text.Raw

/-!
# When a result can be printed

A result can always be printed as text.  As JSON it can be printed unless the path of a file or of
its table is no text, since these two are all that is not made of characters and numbers.

* `CheckedFile.Foreign` — a result with a path that is no text.
* `outputFor_eq_error_iff` — **the results without an output**.
* `exists_outputFor`, `code_of_outputFor` — all others have one, with the code for them.
* `codeFor_eq_zero_iff` — the code tells whether all files comply.
-/

namespace RadarConform

/-- The path of the file or of its table is no text. -/
def CheckedFile.Foreign (c : CheckedFile) : Prop := c.file.toText? = none ∨ c.table.toText? = none

lemma CheckedFile.json_eq_error_iff {c : CheckedFile} :
    c.json = .error .foreignPath ↔ c.Foreign := by
  rw [CheckedFile.json, FilePath.json, FilePath.json, Foreign]
  cases c.file.toText? with
  | none => exact ⟨fun _ => .inl rfl, fun _ => rfl⟩
  | some file =>
      cases c.table.toText? with
      | none => exact ⟨fun _ => .inr rfl, fun _ => rfl⟩
      | some table => exact ⟨nofun, nofun⟩

variable {files : List CheckedFile} {format : OutputFormat} {output : Output}

lemma jsonOutput_eq_error_iff :
    jsonOutput files = .error .foreignPath ↔ ∃ c ∈ files, c.Foreign := by
  rw [jsonOutput]
  cases hjson : files.mapM CheckedFile.json with
  | error cause =>
      obtain ⟨c, hc, hcause⟩ := Except.exists_of_mapM_eq_error hjson
      cases cause
      exact ⟨fun _ => ⟨c, hc, CheckedFile.json_eq_error_iff.mp hcause⟩, fun _ => rfl⟩
  | ok results =>
      constructor
      · nofun
      · rintro ⟨c, hc, hforeign⟩
        obtain ⟨j, hj⟩ := Except.exists_of_mapM_eq_ok hjson hc
        cases hj.symm.trans (CheckedFile.json_eq_error_iff.mpr hforeign)

/-- **The results without an output** are those with a path that is no text, where JSON is asked
for. -/
lemma outputFor_eq_error_iff :
    outputFor format files = .error .foreignPath ↔ format = .json ∧ ∃ c ∈ files, c.Foreign := by
  rw [outputFor, Except.map_eq_error_iff]
  cases format with
  | text => exact ⟨nofun, fun h => nomatch h.1⟩
  | json => rw [and_iff_right rfl, ← jsonOutput_eq_error_iff, outputText]

lemma code_of_outputFor (h : outputFor format files = .ok output) : output.code = codeFor files := by
  obtain ⟨text, -, rfl⟩ := Except.map_eq_ok_iff.mp h
  rfl

/-- Every other result has an output. -/
lemma exists_outputFor (h : ¬ (format = .json ∧ ∃ c ∈ files, c.Foreign)) :
    ∃ output, outputFor format files = .ok output := by
  cases houtput : outputFor format files with
  | ok output => exact ⟨output, rfl⟩
  | error fault =>
      cases fault
      exact absurd (outputFor_eq_error_iff.mp houtput) h

lemma codeFor_eq_zero_iff : codeFor files = 0 ↔ ∀ c ∈ files, c.report.isCompliant = true := by
  rw [← List.all_eq_true, codeFor]
  cases files.all (·.report.isCompliant) <;> simp

lemma codeFor_eq_zero_or_one (files : List CheckedFile) :
    codeFor files = 0 ∨ codeFor files = 1 := by
  rw [codeFor]
  cases files.all (·.report.isCompliant)
  · exact .inr rfl
  · exact .inl rfl

end RadarConform
