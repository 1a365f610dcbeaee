import RadarConform.Proofs.Json.Range
import RadarConform.Proofs.Yaml.Conversion

/-!
# The range of numbers in a YAML text

A whole number of a YAML value has 64 bits: one that is larger is an error, or no whole number.
Other numbers may be infinite or no number at all, and it is the conversion to JSON that stops them.

* `Yaml.Words` — a value whose whole numbers have 64 bits.
* `Yaml.words_of_ofTree?` — **every tree that has a value has such a value**, by one case for each
  kind of node.
* `Yaml.inRange_of_toJson` — what comes through the conversion is in range.
-/

namespace RadarConform.Yaml

/-- A value whose whole numbers have 64 bits. -/
inductive Words : Yaml → Prop
  | null : Words .null
  | bool (b : Bool) : Words (.bool b)
  | integer {n : Int} : isWord n = true → Words (.integer n)
  | real (x : Number) : Words (.real x)
  | text (s : String) : Words (.text s)
  | list {items : List Yaml} : (∀ v ∈ items, Words v) → Words (.list items)
  | record {entries : List (Yaml × Yaml)} :
      (∀ entry ∈ entries, Words entry.2) → Words (.record entries)
  | tagged {tag : String} {v : Yaml} : Words v → Words (.tagged tag v)

lemma natAbs_lt_of_isWord {n : Int} (h : isWord n = true) : n.natAbs < 2 ^ 64 := by
  simp only [isWord, Bool.and_eq_true, decide_eq_true_eq, Nat.pow_eq] at h
  omega

/-! ## Scalars -/

lemma words_elim (s : String) (x : Option Number) : (x.elim (text s) real).Words := by
  cases x with
  | none => exact .text s
  | some x => exact .real x

lemma words_of_ofPlain? {s : String} {v : Yaml} (h : ofPlain? s = some v) : v.Words := by
  simp only [ofPlain?] at h
  split at h
  · cases h
    exact .null
  · split at h
    · cases h
      exact .bool _
    · split at h
      · next hword =>
          cases h
          exact .integer hword
      · split at h
        · cases h
        · cases h
          exact words_elim s _
    · split at h
      · cases h
        exact .text s
      · cases h
        exact words_elim s _

lemma words_of_ofScalar? {style : ScalarStyle} {s : String} {v : Yaml}
    (h : ofScalar? style s = some v) : v.Words := by
  rw [ofScalar?] at h
  split at h
  · exact words_of_ofPlain? h
  · cases h
    exact .text s

lemma words_of_ofTagged? {style : ScalarStyle} {s : String} {tag : Option Tag} {v : Yaml}
    (h : ofTagged? style s tag = some v) : v.Words := by
  rw [ofTagged?.eq_def] at h
  split at h
  · exact words_of_ofScalar? h
  · exact words_of_ofScalar? h
  · exact words_of_ofScalar? h
  · obtain ⟨b, -, rfl⟩ := Option.map_eq_some_iff.mp h
    exact .bool b
  · obtain ⟨n, -, h⟩ := Option.bind_eq_some_iff.mp h
    split at h
    · next hword =>
        cases h
        exact .integer hword
    · cases h
  · obtain ⟨x, -, rfl⟩ := Option.map_eq_some_iff.mp h
    exact .real x
  · split at h
    · cases h
      exact .null
    · cases h
  · cases h
    exact .text s

/-! ## Trees -/

lemma Words.withTag {v : Yaml} (h : v.Words) (tag : Option Tag) : (v.withTag tag).Words := by
  rw [Yaml.withTag.eq_def]
  split
  · exact .tagged h
  · exact h

lemma distinct?_eq_some {entries es : List (Yaml × Yaml)} (h : distinct? entries = some es) :
    es = entries := by
  induction entries generalizing es with
  | nil =>
      cases h
      rfl
  | cons entry rest ih =>
      rw [distinct?] at h
      split at h
      · cases h
      · obtain ⟨later, hlater, rfl⟩ := Option.map_eq_some_iff.mp h
        rw [ih hlater]

mutual

/-- **Every tree that has a value has one whose whole numbers have 64 bits.** -/
theorem words_of_ofTree? (t : Tree) {v : Yaml} (h : ofTree? t = some v) : v.Words := by
  cases t with
  | scalar tag style s =>
      obtain ⟨u, hu, rfl⟩ := Option.map_eq_some_iff.mp h
      exact (words_of_ofTagged? hu).withTag tag
  | sequence tag items =>
      obtain ⟨vs, hvs, rfl⟩ := Option.map_eq_some_iff.mp h
      exact (Words.list (words_of_ofTrees? items hvs)).withTag tag
  | mapping tag entries =>
      rw [ofTree?] at h
      simp only [Option.bind_eq_bind, Option.bind_eq_some_iff, Option.pure_def,
        Option.some.injEq] at h
      obtain ⟨es, hes, ds, hds, rfl⟩ := h
      rw [distinct?_eq_some hds]
      exact (Words.record (words_of_ofEntries? entries hes)).withTag tag

theorem words_of_ofTrees? (items : List Tree) {vs : List Yaml} (h : ofTrees? items = some vs) :
    ∀ v ∈ vs, v.Words := by
  cases items with
  | nil =>
      cases h
      exact List.forall_mem_nil _
  | cons t rest =>
      rw [ofTrees?] at h
      simp only [Option.bind_eq_bind, Option.bind_eq_some_iff, Option.pure_def,
        Option.some.injEq] at h
      obtain ⟨v, hv, later, hlater, rfl⟩ := h
      exact List.forall_mem_cons.mpr ⟨words_of_ofTree? t hv, words_of_ofTrees? rest hlater⟩

theorem words_of_ofEntries? (entries : List (Tree × Tree)) {es : List (Yaml × Yaml)}
    (h : ofEntries? entries = some es) : ∀ entry ∈ es, entry.2.Words := by
  cases entries with
  | nil =>
      cases h
      exact List.forall_mem_nil _
  | cons entry rest =>
      obtain ⟨k, u⟩ := entry
      rw [ofEntries?] at h
      simp only [Option.bind_eq_bind, Option.bind_eq_some_iff, Option.pure_def,
        Option.some.injEq] at h
      obtain ⟨key, -, v, hv, later, hlater, rfl⟩ := h
      exact List.forall_mem_cons.mpr ⟨words_of_ofTree? u hv, words_of_ofEntries? rest hlater⟩

end

lemma words_of_parse {s : String} {v : Yaml} (h : parse s = some v) : v.Words := by
  simp only [parse, Option.bind_eq_bind, Option.bind_eq_some_iff] at h
  obtain ⟨tree, -, h⟩ := h
  split at h
  · cases h
    exact .null
  · exact words_of_ofTree? _ h

/-! ## Conversion -/

/-- **What comes through the conversion is in range**: whole numbers are, and others are finite or
an error. -/
lemma inRange_of_toJson {v : Yaml} (hv : v.Words) {j : Json} (h : v.toJson = .ok j) :
    j.InRange := by
  induction hv generalizing j with
  | null =>
      cases h
      exact .null
  | bool b =>
      cases h
      exact .bool b
  | integer hn =>
      cases h
      exact .integer (natAbs_lt_of_isWord hn)
  | real x =>
      rw [toJson] at h
      split at h
      · next hx =>
          cases h
          exact .real hx
      · cases h
  | text s =>
      cases h
      exact .text s
  | list _ ih =>
      rw [toJson, itemsToJson_eq] at h
      obtain ⟨js, hjs, rfl⟩ := Except.map_eq_ok_iff.mp h
      refine .list fun j hj => ?_
      obtain ⟨u, hu, huj⟩ := exists_of_forall₂ (Except.mapM_eq_ok_iff.mp hjs).flip hj
      exact ih u hu huj
  | record _ ih =>
      rw [toJson, entriesToJson_eq] at h
      obtain ⟨es, hes, rfl⟩ := Except.map_eq_ok_iff.mp h
      refine .record fun e he => ?_
      obtain ⟨entry, hentry, hconverted⟩ := exists_of_forall₂ (Except.mapM_eq_ok_iff.mp hes).flip he
      exact ih entry hentry (entryToJson_eq_ok_iff.mp hconverted).2
  | tagged _ ih => exact ih h

end RadarConform.Yaml
