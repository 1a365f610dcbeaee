import RadarConform.FileStore
import RadarConform.Proofs.FilePath

/-!
# Files under several paths

A path may be written in many ways, and all of them lead to the same file.

* `FileStore.ReadsNames` — that only the names of a path count, as they do where no limit is set to
  the length of paths.
* `FileStore.readsNames_ofList` — **it is so for the files of a list.**
-/

namespace RadarConform.FileStore

/-- Only the names of a path count: paths that are the same are read alike, unless one of them says
that it is the path of a directory. -/
def ReadsNames (store : FileStore) : Prop :=
  ∀ path other, FilePath.same path other = true → endsAsDirectory path = false →
    endsAsDirectory other = false → store.read path = store.read other

open FilePath (slash point)

lemma names_eq_filter (path : FilePath) :
    names path = (FilePath.components path.units).filter (· ≠ [point]) := by
  rw [names, FilePath.components]
  cases Text.pieces (· == slash) path.units with
  | nil => rfl
  | cons first rest =>
      have hrest : ((rest.filter (· ≠ [point])).filter (· ≠ [])).filter (· ≠ [point])
          = rest.filter (fun p => p ≠ [] ∧ p ≠ [point]) := by
        rw [List.filter_filter, List.filter_filter]
        refine List.filter_congr fun p _ => ?_
        by_cases hpoint : p = [point] <;> simp [hpoint]
      by_cases hempty : first = []
      · simpa [hempty] using hrest.symm
      · by_cases hpoint : first = [point]
        · simpa [hpoint] using hrest.symm
        · simpa [hempty, hpoint] using hrest.symm

lemma units_ne_nil_of_endsAsDirectory {path : FilePath} (h : endsAsDirectory path = false) :
    path.units ≠ [] := by
  intro hnil
  rw [endsAsDirectory, hnil] at h
  cases h

/-- **Files of a list are read by the names of their paths.** -/
lemma readsNames_ofList (files : List (FilePath × Option String)) : (ofList files).ReadsNames := by
  intro path other hsame hpath hother
  have hnames : names path = names other := by
    rw [names_eq_filter, names_eq_filter, FilePath.components_eq_of_same hsame]
  have hstart : (path.units.head? == some slash) = (other.units.head? == some slash) :=
    eq_of_beq (Bool.and_eq_true_iff.mp hsame).1
  have hlocate : ∀ known, locate known path = locate known other := by
    intro known
    have hhead : path.units.head? = some slash ↔ other.units.head? = some slash := by
      rw [← beq_iff_eq, hstart, beq_iff_eq]
    simp only [locate, hnames, units_ne_nil_of_endsAsDirectory hpath,
      units_ne_nil_of_endsAsDirectory hother, hhead]
  simp only [ofList, hlocate, hpath, hother]

end RadarConform.FileStore
