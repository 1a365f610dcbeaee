import Mathlib.Tactic.Lemma
import RadarConform.Table.Record

/-!
# Records of quoted fields

A field that is written between quotes, with its own quotes written twice, may hold anything.

* `Record.quotedField`, `Record.line` — fields as they are written.
* `Record.takeQuoted_doubled` — a quoted field ends at its own closing quote.
* `Record.split_line` — **what is written is read back**, whatever the fields hold.
-/

namespace RadarConform.Record

/-! ## Writing -/

/-- A text with its quotes written twice. -/
def doubled : List Char → List Char
  | [] => []
  | c :: cs => if c = '"' then '"' :: '"' :: doubled cs else c :: doubled cs

/-- A field between quotes. -/
def quotedField (field : String) : List Char := '"' :: (doubled field.toList ++ ['"'])

/-- The line of some fields: all of them quoted, with semicolons between them. -/
def line (fields : List String) : List Char := [';'].intercalate (fields.map quotedField)

lemma line_singleton (field : String) : line [field] = quotedField field := by
  rw [line, List.map_singleton, List.intercalate_singleton]

lemma line_cons (field : String) {fields : List String} (h : fields ≠ []) :
    line (field :: fields) = quotedField field ++ ';' :: line fields := by
  rw [line, List.map_cons, List.intercalate_cons_of_ne_nil (by simpa using h), line,
    List.append_assoc, List.singleton_append]

lemma mem_doubled_iff {c : Char} {cs : List Char} : c ∈ doubled cs ↔ c ∈ cs := by
  induction cs with
  | nil => rfl
  | cons d cs ih =>
      rw [doubled]
      split
      · next hd => simp [hd, ih]
      · simp [ih]

/-- Nothing but quotes and semicolons is added to the fields. -/
lemma mem_line {c : Char} {fields : List String} (h : c ∈ line fields) :
    c = '"' ∨ c = ';' ∨ ∃ field ∈ fields, c ∈ field.toList := by
  have hfield : ∀ field, c ∈ quotedField field → c = '"' ∨ c ∈ field.toList := by
    intro field hmem
    simpa [quotedField, mem_doubled_iff, or_comm, or_assoc] using hmem
  induction fields with
  | nil => cases h
  | cons field fields ih =>
      by_cases hnil : fields = []
      · rw [hnil, line_singleton] at h
        rcases hfield field h with h | h
        · exact .inl h
        · exact .inr (.inr ⟨field, List.mem_cons_self, h⟩)
      · rw [line_cons field hnil, List.mem_append, List.mem_cons] at h
        rcases h with h | rfl | h
        · rcases hfield field h with h | h
          · exact .inl h
          · exact .inr (.inr ⟨field, List.mem_cons_self, h⟩)
        · exact .inr (.inl rfl)
        · rcases ih h with h | h | ⟨other, hother, h⟩
          · exact .inl h
          · exact .inr (.inl h)
          · exact .inr (.inr ⟨other, List.mem_cons_of_mem field hother, h⟩)

/-- Every line of quoted fields starts with a quote. -/
lemma exists_line_eq_cons {fields : List String} (h : fields ≠ []) :
    ∃ cs, line fields = '"' :: cs := by
  obtain ⟨field, rest, rfl⟩ := List.exists_cons_of_ne_nil h
  by_cases hnil : rest = []
  · exact ⟨_, by rw [hnil, line_singleton, quotedField]⟩
  · exact ⟨_, by rw [line_cons field hnil, quotedField, List.cons_append]⟩

lemma getLast?_line {fields : List String} (h : fields ≠ []) :
    (line fields).getLast? = some '"' := by
  induction fields with
  | nil => exact absurd rfl h
  | cons field fields ih =>
      by_cases hnil : fields = []
      · rw [hnil, line_singleton, quotedField, ← List.cons_append, List.getLast?_concat]
      · obtain ⟨cs, hcs⟩ := exists_line_eq_cons hnil
        rw [line_cons field hnil, List.getLast?_append, hcs, List.getLast?_cons_cons, ← hcs,
          ih hnil]
        rfl

/-! ## Reading -/

/-- **A quoted field ends at its own closing quote**, not at a doubled one. -/
lemma takeQuoted_doubled (cs : List Char) {rest : List Char} (h : rest.head? ≠ some '"') :
    takeQuoted (doubled cs ++ '"' :: rest) = some (cs, rest) := by
  induction cs with
  | nil =>
      cases rest with
      | nil => rfl
      | cons c rest =>
          rw [doubled, List.nil_append, takeQuoted]
          · rfl
          · rintro _ - heq
            cases heq
            exact h rfl
  | cons c cs ih =>
      rw [doubled]
      split
      · next hc =>
          rw [List.cons_append, List.cons_append, takeQuoted, ih, hc]
          rfl
      · next hc =>
          rw [List.cons_append, takeQuoted, if_neg hc, ih]
          · rfl
          · intro _ heq
            exact absurd heq hc

lemma takeField_quotedField (field : String) :
    takeField (quotedField field) = .ok (field.toList, none) := by
  have hquoted : takeQuoted (doubled field.toList ++ ['"']) = some (field.toList, []) :=
    takeQuoted_doubled field.toList nofun
  rw [takeField, quotedField, dropPadding, List.dropWhile_cons_of_neg (by decide)]
  simp only [hquoted]
  rfl

lemma takeField_quotedField_append (field : String) (after : List Char) :
    takeField (quotedField field ++ ';' :: after) = .ok (field.toList, some after) := by
  have hquoted : takeQuoted (doubled field.toList ++ '"' :: ';' :: after)
      = some (field.toList, ';' :: after) := takeQuoted_doubled field.toList (by simp)
  rw [takeField, quotedField, List.cons_append, List.append_assoc, List.singleton_append,
    dropPadding, List.dropWhile_cons_of_neg (by decide)]
  simp only [hquoted, dropPadding]
  rw [List.dropWhile_cons_of_neg (by decide)]
  rfl

lemma splitChars_of_last {cs field : List Char} (h : takeField cs = .ok (field, none)) :
    splitChars cs = .ok [field] := by
  rw [splitChars]
  split <;> simp_all

lemma splitChars_of_more {cs field after : List Char}
    (h : takeField cs = .ok (field, some after)) :
    splitChars cs = (splitChars after).map (field :: ·) := by
  rw [splitChars]
  split <;> simp_all

lemma splitChars_line {fields : List String} (h : fields ≠ []) :
    splitChars (line fields) = .ok (fields.map String.toList) := by
  induction fields with
  | nil => exact absurd rfl h
  | cons field fields ih =>
      by_cases hnil : fields = []
      · rw [hnil, line_singleton, splitChars_of_last (takeField_quotedField field)]
        rfl
      · rw [line_cons field hnil, splitChars_of_more (takeField_quotedField_append field _),
          ih hnil]
        rfl

/-- **The fields of a line are read back as they were**, whatever stands in them. -/
lemma split_line {fields : List String} (h : fields ≠ []) : split (line fields) = .ok fields := by
  rw [split, splitChars_line h]
  change Except.ok ((fields.map String.toList).map String.ofList) = _
  rw [List.map_map]
  exact congrArg _ (List.map_id'' (fun _ => String.ofList_toList) fields)

end RadarConform.Record
