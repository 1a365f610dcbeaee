import RadarConform.FilePath
import RadarConform.Proofs.Text.Pieces
import RadarConform.Proofs.Text.Raw

/-!
# Names at the end of a path

The name of a file is what follows the last slash of its path, so it can be read off the last piece
of the path, whatever stands before.

* `cutLast_eq_some_iff` — a cut at the last occurrence of a character.
* `fileName?_of_pieces` — the name is the last piece, unless this says nothing.
* `fileName?_join` — **a file below a directory has its own name**.
* `slash_notMem_of_fileName?`, `slash_notMem_of_stem?` — no name holds a slash.
* `stem?_of_point`, `extension?_of_point` — a name with a point in it, taken apart.
* `components_eq_of_same`, `fileName?_eq_of_same` — paths that are the same have the same names.
-/

namespace RadarConform.FilePath

/-! ## The last occurrence -/

lemma cutLast_eq_some_iff {α : Type} [BEq α] [LawfulBEq α] {sep : α} {cs before after : List α} :
    cutLast sep cs = some (before, after) ↔ cs = before ++ sep :: after ∧ sep ∉ after := by
  simp only [cutLast, Option.map_eq_some_iff, Prod.exists, Prod.mk.injEq,
    Text.cutOnce_eq_some_iff, beq_iff_eq, beq_eq_false_iff_ne]
  constructor
  · rintro ⟨a, b, ⟨c, rfl, hcs, ha⟩, rfl, rfl⟩
    refine ⟨?_, fun hmem => ha c (List.mem_reverse.mp hmem) rfl⟩
    rw [← List.reverse_reverse cs, hcs]
    simp
  · rintro ⟨rfl, hafter⟩
    refine ⟨after.reverse, before.reverse, ⟨sep, rfl, by simp, ?_⟩, by simp, by simp⟩
    rintro c hc rfl
    exact hafter (List.mem_reverse.mp hc)

/-! ## The last name -/

/-- The last name of a path is its last piece, unless that is empty or a lone point. -/
lemma getLast?_components {path name : List RawUnit} {ps : List (List RawUnit)}
    (h : Text.pieces (· == slash) path = ps ++ [name]) (hne : name ≠ []) (hpoint : name ≠ [point]) :
    (components path).getLast? = some name := by
  rw [components, h]
  cases ps with
  | nil => simp [hne]
  | cons p ps => simp [List.filter_append, hne, hpoint]

/-- A name that is read off a path is its last piece. -/
lemma fileName?_of_pieces {path : FilePath} {name : List RawUnit} {ps : List (List RawUnit)}
    (h : Text.pieces (· == slash) path.units = ps ++ [name]) (hne : name ≠ [])
    (hpoint : name ≠ [point]) (hpoints : name ≠ [point, point]) : fileName? path = some name := by
  rw [fileName?, getLast?_components h hne hpoint]
  simp [hpoint, hpoints]

lemma slash_notMem_of_fileName? {path : FilePath} {name : List RawUnit}
    (h : fileName? path = some name) : slash ∉ name := by
  have hlast : (components path.units).getLast? = some name := by
    rw [fileName?] at h
    split at h
    · cases h
    · next last hlast =>
        split at h
        · cases h
        · cases h
          exact hlast
  have hmem : name ∈ Text.pieces (· == slash) path.units := by
    have hname := List.mem_of_getLast? hlast
    rw [components] at hname
    split at hname
    · cases hname
    · next first rest hpieces =>
        rw [hpieces]
        rcases List.mem_cons.mp (List.mem_filter.mp hname).1 with rfl | hrest
        · exact List.mem_cons_self
        · exact List.mem_cons_of_mem first (List.mem_filter.mp hrest).1
  intro hslash
  have hsep : (slash == slash) = false := (Text.mem_of_mem_pieces hmem hslash).2
  cases hsep

/-- What stands before a file in its path is nothing or ends with a slash. -/
lemma exists_units_join (directory file : FilePath) :
    ∃ before, (join directory file).units = before ++ file.units ∧
      (before = [] ∨ ∃ l, before = l ++ [slash]) := by
  rw [join]
  split
  · exact ⟨[], rfl, .inl rfl⟩
  · split
    · next hslash =>
        obtain ⟨l, hl⟩ := List.getLast?_eq_some_iff.mp hslash
        exact ⟨directory.units, RawText.units_append _ _, .inr ⟨l, hl⟩⟩
    · exact ⟨directory.units ++ [slash], rfl, .inr ⟨_, rfl⟩⟩

/-- The last piece of a path below a directory is the file. -/
lemma exists_pieces_join (directory : FilePath) {file : FilePath} (hfile : slash ∉ file.units) :
    ∃ ps, Text.pieces (· == slash) (join directory file).units = ps ++ [file.units] := by
  have hfree := Text.free_of_notMem hfile
  obtain ⟨before, hjoin, rfl | ⟨l, rfl⟩⟩ := exists_units_join directory file
  · exact ⟨[], by rw [hjoin]; exact Text.pieces_of_free hfree⟩
  · refine ⟨Text.pieces (· == slash) l, ?_⟩
    rw [hjoin, List.append_assoc, List.singleton_append, Text.pieces_append (by decide),
      Text.pieces_of_free hfree]

/-- **A file below a directory has its own name.** -/
lemma fileName?_join (directory : FilePath) {file : FilePath} (hfile : slash ∉ file.units)
    (hne : file.units ≠ []) (hpoint : file.units ≠ [point]) (hpoints : file.units ≠ [point, point]) :
    fileName? (join directory file) = some file.units := by
  obtain ⟨ps, hps⟩ := exists_pieces_join directory hfile
  exact fileName?_of_pieces hps hne hpoint hpoints

/-! ## Stem and extension -/

lemma splitName_of_point {stem extension : List RawUnit} (hstem : stem ≠ [])
    (hextension : point ∉ extension) :
    splitName (stem ++ point :: extension) = (stem, some extension) := by
  rw [splitName, cutLast_eq_some_iff.mpr ⟨rfl, hextension⟩]
  exact if_neg hstem

/-- What stands before the last point of a name is part of the name. -/
lemma mem_of_mem_splitName {name : List RawUnit} {u : RawUnit} (h : u ∈ (splitName name).1) :
    u ∈ name := by
  rw [splitName] at h
  split at h
  · next before after hcut =>
      obtain ⟨rfl, -⟩ := cutLast_eq_some_iff.mp hcut
      split at h
      · exact h
      · exact List.mem_append_left _ h
  · exact h

variable {path : FilePath} {stem extension : List RawUnit}

lemma slash_notMem_of_stem? (h : stem? path = some stem) : slash ∉ stem := by
  obtain ⟨name, hname, rfl⟩ := Option.map_eq_some_iff.mp h
  exact fun hslash => slash_notMem_of_fileName? hname (mem_of_mem_splitName hslash)

lemma stem?_of_point (h : fileName? path = some (stem ++ point :: extension)) (hstem : stem ≠ [])
    (hextension : point ∉ extension) : stem? path = some stem := by
  rw [stem?, h, Option.map_some, splitName_of_point hstem hextension]

lemma extension?_of_point (h : fileName? path = some (stem ++ point :: extension))
    (hstem : stem ≠ []) (hextension : point ∉ extension) : extension? path = some extension := by
  rw [extension?, h]
  exact congrArg Prod.snd (splitName_of_point hstem hextension)

/-! ## Paths that are the same -/

variable {other : FilePath}

lemma components_eq_of_same (h : same path other = true) :
    components path.units = components other.units :=
  eq_of_beq (Bool.and_eq_true_iff.mp h).2

lemma fileName?_eq_of_same (h : same path other = true) : fileName? path = fileName? other := by
  rw [fileName?, fileName?, components_eq_of_same h]

end RadarConform.FilePath
