import RadarConform.Proofs.Snapshot.Document
import RadarConform.Proofs.Yaml.Range

/-!
# The numbers of a snapshot

No snapshot brings a number that is not finite: a JSON text cannot say it, and a YAML text that does
is not converted.

* `AttributeValue.numbers` — the numbers that a value holds.
* `SnapshotFormat.inRange_of_document` — the numbers of a document, in either format.
* `Layout.FiniteNumbers` — **the invariant**, which `Layout.finiteNumbers_of_parse` gives for every
  layout that is read.
-/

namespace RadarConform

/-- The numbers that a value holds. -/
def AttributeValue.numbers : AttributeValue → List Number
  | text _ => []
  | number x => [x]
  | sequence xs => xs

/-! ## Documents -/

/-- The two formats bring numbers in different ways, and both keep them in range. -/
lemma SnapshotFormat.inRange_of_document {format : SnapshotFormat} {text : String} {v : Json}
    (h : format.document text = .ok v) : v.InRange := by
  cases format with
  | json =>
      simp only [document] at h
      split at h
      · next u hu =>
          cases h
          exact (Json.inRange_of_parse hu).merged
      · cases h
  | yaml =>
      simp only [document] at h
      split at h
      · next u hu =>
          exact Yaml.inRange_of_toJson (Yaml.words_of_parse hu) (Except.mapError_eq_ok_iff.mp h)
      · cases h

/-- The numbers of a list are those of its items. -/
lemma exists_of_numbersOfJson {items : List Json} {xs : List Number}
    (h : numbersOfJson items = .ok xs) {x : Number} (hx : x ∈ xs) :
    ∃ v ∈ items, v.number? = some x := by
  induction items generalizing xs with
  | nil =>
      cases h
      cases hx
  | cons v rest ih =>
      rw [numbersOfJson] at h
      split at h
      · cases h
      · next y hy =>
          obtain ⟨ys, hys, rfl⟩ := Except.map_eq_ok_iff.mp h
          rcases List.mem_cons.mp hx with rfl | hx
          · exact ⟨v, List.mem_cons_self, hy⟩
          · obtain ⟨u, hu, hux⟩ := ih hys hx
            exact ⟨u, List.mem_cons_of_mem v hu, hux⟩

/-- The value of an entry holds numbers of the document and no others. -/
lemma AttributeValue.isFinite_of_ofEntry {v : Json} (hv : v.InRange) {value : AttributeValue}
    (h : AttributeValue.ofEntry v = .ok value) : ∀ x ∈ value.numbers, x.isFinite = true := by
  intro x hx
  cases v with
  | text s =>
      cases h
      cases hx
  | integer | real =>
      rw [← Except.ok.inj h] at hx
      rw [List.mem_singleton.mp hx]
      exact hv.isFinite rfl
  | list items =>
      obtain ⟨xs, hxs, rfl⟩ := Except.map_eq_ok_iff.mp h
      obtain ⟨u, hu, hux⟩ := exists_of_numbersOfJson hxs hx
      cases hv with
      | list hitems => exact (hitems u hu).isFinite hux
  | null | bool | record => cases h

/-! ## Layouts -/

namespace Layout

/-- A layout all of whose numbers are finite. -/
def FiniteNumbers (layout : Layout) : Prop :=
  ∀ node ∈ layout.nodes, ∀ value, node.value = some value → ∀ x ∈ value.numbers, x.isFinite = true

/-- **Every layout that is read has finite numbers.** -/
lemma finiteNumbers_of_parse {text path : String} {format : SnapshotFormat} {layout : Layout}
    (h : Layout.parse text format path = .ok layout) : layout.FiniteNumbers := by
  obtain ⟨entries, hdocument, ns, hlists, rfl⟩ := parse_eq_ok_iff.mp h
  intro node hnode value hvalue x hx
  -- Building adds groups only, so the node with the value is one that an entry lists.
  have hlisted : node ∈ ns.filter (·.value.isSome) := by
    rw [← (tidy_build (listable_of_lists hlists)).attributes]
    exact List.mem_filter.mpr ⟨hnode, by simp [hvalue]⟩
  obtain ⟨entry, hentry, hlist⟩ := exists_of_forall₂ hlists.flip (List.mem_filter.mp hlisted).1
  cases SnapshotFormat.inRange_of_document hdocument with
  | record hentries =>
      cases hlist with
      | group => cases hvalue
      | valued _ _ hof =>
          cases hvalue
          exact AttributeValue.isFinite_of_ofEntry (hentries _ hentry) hof x hx

end Layout

end RadarConform
