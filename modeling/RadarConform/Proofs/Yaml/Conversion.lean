import RadarConform.Proofs.Computation
import RadarConform.Snapshot.Reader

/-!
# What conversion keeps

A YAML document becomes a JSON value before a layout is built from it.  Tags are dropped on the way,
and what JSON cannot say, an infinite number or a key that is no text, is an error wherever it
stands.

* `Yaml.ofJson` — the YAML value with the structure of a JSON value.
* `Yaml.untagged` — a value without its tags.
* `Yaml.Part`, `ConversionFault.In` — what a value is made of, and **what in it has no JSON form**.
* `toJson_eq_ok_iff` — a value is converted exactly when it is a finite JSON value but for its tags,
  and then into that value.
* `exists_fault_iff` — it is not converted exactly when something in it has no JSON form.
* `Layout.ofYaml`, `ofYaml_of_shape` — a document gives the same layout in both formats.
* `toJson_keeps` — **conversion drops tags and nothing else**.

The lists in a value are nested in it, so an induction on values has to reach their elements
(`Yaml.nestedInduction`).  Items and entries are converted by functions of their own; both are
traversals (`itemsToJson_eq`, `entriesToJson_eq`), and the laws of traversals serve for the rest.
-/

namespace RadarConform

/-! ## Values and their parts -/

/-- **Induction on values**, with the hypothesis for all items of a list and for the values of all
entries of a mapping. -/
@[elab_as_elim]
theorem Yaml.nestedInduction {P : Yaml → Prop} (null : P .null) (bool : ∀ b, P (.bool b))
    (integer : ∀ n, P (.integer n)) (real : ∀ x, P (.real x)) (text : ∀ s, P (.text s))
    (list : ∀ items, (∀ v ∈ items, P v) → P (.list items))
    (record : ∀ entries, (∀ entry ∈ entries, P entry.2) → P (.record entries))
    (tagged : ∀ tag v, P v → P (.tagged tag v)) : ∀ v, P v
  | .null => null
  | .bool b => bool b
  | .integer n => integer n
  | .real x => real x
  | .text s => text s
  | .list items => list items fun v _ =>
      nestedInduction null bool integer real text list record tagged v
  | .record entries => record entries fun entry _ =>
      nestedInduction null bool integer real text list record tagged entry.2
  | .tagged tag v =>
      tagged tag v (nestedInduction null bool integer real text list record tagged v)
termination_by v => v
decreasing_by
  · have hitem := List.sizeOf_lt_of_mem ‹v ∈ items›
    simp only [Yaml.list.sizeOf_spec]
    omega
  · have hentry := List.sizeOf_lt_of_mem ‹entry ∈ entries›
    obtain ⟨k, v⟩ := entry
    simp only [Yaml.record.sizeOf_spec, Prod.mk.sizeOf_spec] at hentry ⊢
    omega
  · simp only [Yaml.tagged.sizeOf_spec]
    omega

/-- A JSON value all of whose numbers are finite. -/
inductive Json.Finite : Json → Prop
  | null : Finite .null
  | bool (b : Bool) : Finite (.bool b)
  | integer (n : Int) : Finite (.integer n)
  | real {x : Number} : x.isFinite = true → Finite (.real x)
  | text (s : String) : Finite (.text s)
  | list {items : List Json} : (∀ v ∈ items, Finite v) → Finite (.list items)
  | record {entries : List (String × Json)} :
      (∀ entry ∈ entries, Finite entry.2) → Finite (.record entries)

namespace Yaml

mutual

/-- The YAML value with the structure of a JSON value. -/
def ofJson : Json → Yaml
  | .null => null
  | .bool b => bool b
  | .integer n => integer n
  | .real x => real x
  | .text s => text s
  | .list items => list (itemsOfJson items)
  | .record entries => record (entriesOfJson entries)

/-- The YAML values with the structure of JSON values. -/
def itemsOfJson : List Json → List Yaml
  | [] => []
  | v :: rest => ofJson v :: itemsOfJson rest

/-- The entries with the structure of those of a record. -/
def entriesOfJson : List (String × Json) → List (Yaml × Yaml)
  | [] => []
  | (key, v) :: rest => (text key, ofJson v) :: entriesOfJson rest

end

mutual

/-- A value without the tags at it and in it.  A tag at a key is left, for a key with a tag is no
text. -/
def untagged : Yaml → Yaml
  | list items => list (untaggedItems items)
  | record entries => record (untaggedEntries entries)
  | tagged _ v => untagged v
  | v => v

/-- Values without tags. -/
def untaggedItems : List Yaml → List Yaml
  | [] => []
  | v :: rest => untagged v :: untaggedItems rest

/-- Entries of which the values are without tags. -/
def untaggedEntries : List (Yaml × Yaml) → List (Yaml × Yaml)
  | [] => []
  | (k, v) :: rest => (k, untagged v) :: untaggedEntries rest

end

/-- What a value is made of: itself, and the parts of its items, of the values of its entries, and
of what stands below a tag. -/
inductive Part (p : Yaml) : Yaml → Prop
  | self : Part p p
  | item {items : List Yaml} {v : Yaml} : v ∈ items → Part p v → Part p (list items)
  | entry {entries : List (Yaml × Yaml)} {entry : Yaml × Yaml} :
      entry ∈ entries → Part p entry.2 → Part p (record entries)
  | tagged {tag : String} {v : Yaml} : Part p v → Part p (tagged tag v)

/-- What has no JSON form is in a value: a number that is not finite, or a key that is no text. -/
def ConversionFault.In (fault : ConversionFault) (v : Yaml) : Prop :=
  match fault with
  | .real x => Part (.real x) v ∧ x.isFinite = false
  | .key k => (∃ entries u, Part (.record entries) v ∧ (k, u) ∈ entries) ∧ ∀ s, k ≠ .text s

/-- What is in a part is in the whole. -/
lemma ConversionFault.In.mono {fault : ConversionFault} {v w : Yaml} (h : fault.In v)
    (hparts : ∀ p, Part p v → Part p w) : fault.In w := by
  cases fault with
  | real x => exact ⟨hparts _ h.1, h.2⟩
  | key k =>
      obtain ⟨⟨entries, u, hpart, hentry⟩, hk⟩ := h
      exact ⟨⟨entries, u, hparts _ hpart, hentry⟩, hk⟩

/-! ## Traversals -/

lemma itemsOfJson_eq (items : List Json) : itemsOfJson items = items.map ofJson := by
  induction items with
  | nil => rfl
  | cons v rest ih => simp [itemsOfJson, ih]

lemma entriesOfJson_eq (entries : List (String × Json)) :
    entriesOfJson entries = entries.map fun entry => (text entry.1, ofJson entry.2) := by
  induction entries with
  | nil => rfl
  | cons entry rest ih => simp [entriesOfJson, ih]

lemma untaggedItems_eq (items : List Yaml) : untaggedItems items = items.map untagged := by
  induction items with
  | nil => rfl
  | cons v rest ih => simp [untaggedItems, ih]

lemma untaggedEntries_eq (entries : List (Yaml × Yaml)) :
    untaggedEntries entries = entries.map fun entry => (entry.1, untagged entry.2) := by
  induction entries with
  | nil => rfl
  | cons entry rest ih => simp [untaggedEntries, ih]

/-- The JSON form of an entry. -/
def entryToJson (entry : Yaml × Yaml) : Except ConversionFault (String × Json) :=
  match entry.1 with
  | text k => (toJson entry.2).map (k, ·)
  | k => .error (.key k)

lemma itemsToJson_eq (items : List Yaml) : itemsToJson items = items.mapM toJson := by
  induction items with
  | nil => rfl
  | cons v rest ih => rw [itemsToJson, List.mapM_cons, ih]

lemma entriesToJson_eq (entries : List (Yaml × Yaml)) :
    entriesToJson entries = entries.mapM entryToJson := by
  induction entries with
  | nil => rfl
  | cons entry rest ih =>
      obtain ⟨k, v⟩ := entry
      rw [List.mapM_cons, ← ih]
      cases k with
      | text k =>
          simp only [entriesToJson, entryToJson]
          cases toJson v with
          | error fault => rfl
          | ok j => rfl
      | null | bool | integer | real | list | record | tagged => rfl

lemma entryToJson_eq_ok_iff {entry : Yaml × Yaml} {e : String × Json} :
    entryToJson entry = .ok e ↔ entry.1 = text e.1 ∧ toJson entry.2 = .ok e.2 := by
  obtain ⟨k, v⟩ := entry
  obtain ⟨key, j⟩ := e
  cases k with
  | text k =>
      simp only [entryToJson, Except.map_eq_ok_iff, Prod.mk.injEq, text.injEq]
      constructor
      · rintro ⟨_, hv, rfl, rfl⟩
        exact ⟨rfl, hv⟩
      · rintro ⟨rfl, hv⟩
        exact ⟨j, hv, rfl, rfl⟩
  | null | bool | integer | real | list | record | tagged => simp [entryToJson]

/-! ## What is converted -/

/-- **Every finite JSON value comes back** from the YAML value with its structure. -/
lemma toJson_ofJson {j : Json} (h : j.Finite) : (ofJson j).toJson = .ok j := by
  induction h with
  | null | bool | integer | text => rfl
  | real hx => simp [ofJson, toJson, hx]
  | list _ ih =>
      rename_i items _
      have hitems : (items.map ofJson).mapM toJson = .ok items := by
        rw [Except.mapM_eq_ok_iff, List.forall₂_map_left_iff, List.forall₂_same]
        exact ih
      rw [ofJson, itemsOfJson_eq, toJson, itemsToJson_eq, hitems]
      rfl
  | record _ ih =>
      rename_i entries _
      have hentries : (entries.map fun entry => (text entry.1, ofJson entry.2)).mapM entryToJson
          = .ok entries := by
        rw [Except.mapM_eq_ok_iff, List.forall₂_map_left_iff, List.forall₂_same]
        intro entry hentry
        exact entryToJson_eq_ok_iff.mpr ⟨rfl, ih entry hentry⟩
      rw [ofJson, entriesOfJson_eq, toJson, entriesToJson_eq, hentries]
      rfl

/-- Tags make no difference. -/
lemma toJson_untagged (v : Yaml) : v.untagged.toJson = v.toJson := by
  induction v using Yaml.nestedInduction with
  | null | bool | integer | real | text => rfl
  | list items ih =>
      have hitems : (items.map untagged).mapM toJson = items.mapM toJson := by
        rw [List.mapM_map]
        exact Except.mapM_congr ih
      rw [untagged, untaggedItems_eq, toJson, toJson, itemsToJson_eq, itemsToJson_eq, hitems]
  | record entries ih =>
      have hentries : (entries.map fun entry => (entry.1, untagged entry.2)).mapM entryToJson
          = entries.mapM entryToJson := by
        rw [List.mapM_map]
        refine Except.mapM_congr ?_
        intro entry hentry
        simp only [Function.comp_apply, entryToJson, ih entry hentry]
      rw [untagged, untaggedEntries_eq, toJson, toJson, entriesToJson_eq, entriesToJson_eq,
        hentries]
  | tagged tag v ih => rw [untagged, toJson, ih]

/-- Lists that are related element by element have equal images if related elements have. -/
lemma map_eq_map_of_forall₂ {α β γ : Type} {f : α → γ} {g : β → γ} {xs : List α} {ys : List β}
    (h : List.Forall₂ (fun x y => f x = g y) xs ys) : xs.map f = ys.map g := by
  rwa [← List.forall₂_eq_eq_eq, List.forall₂_map_left_iff, List.forall₂_map_right_iff]

/-- What is converted is, but for its tags, the value that it is converted into, which is finite. -/
lemma shape_of_toJson {v : Yaml} {j : Json} (h : v.toJson = .ok j) :
    v.untagged = ofJson j ∧ j.Finite := by
  induction v using Yaml.nestedInduction generalizing j with
  | null | bool | integer | text =>
      cases h
      exact ⟨rfl, by constructor⟩
  | real x =>
      rw [toJson] at h
      split at h
      · next hx =>
          cases h
          exact ⟨rfl, .real hx⟩
      · cases h
  | list items ih =>
      rw [toJson, itemsToJson_eq] at h
      obtain ⟨js, hjs, rfl⟩ := Except.map_eq_ok_iff.mp h
      have hshapes : List.Forall₂ (fun v j => v.untagged = ofJson j ∧ j.Finite) items js := by
        refine ((List.forall₂_and_left _ _).mpr ⟨ih, Except.mapM_eq_ok_iff.mp hjs⟩).imp ?_
        rintro v j ⟨hv, hj⟩
        exact hv hj
      constructor
      · rw [untagged, untaggedItems_eq, ofJson, itemsOfJson_eq]
        exact congrArg list (map_eq_map_of_forall₂ (hshapes.imp fun _ _ => And.left))
      · refine .list fun j hj => ?_
        obtain ⟨v, -, -, hfinite⟩ := exists_of_forall₂ hshapes.flip hj
        exact hfinite
  | record entries ih =>
      rw [toJson, entriesToJson_eq] at h
      obtain ⟨es, hes, rfl⟩ := Except.map_eq_ok_iff.mp h
      have hshapes : List.Forall₂ (fun entry e =>
          (entry.1, entry.2.untagged) = (text e.1, ofJson e.2) ∧ e.2.Finite) entries es := by
        refine ((List.forall₂_and_left _ _).mpr ⟨ih, Except.mapM_eq_ok_iff.mp hes⟩).imp ?_
        rintro entry e ⟨hv, he⟩
        obtain ⟨hkey, hvalue⟩ := entryToJson_eq_ok_iff.mp he
        obtain ⟨hshape, hfinite⟩ := hv hvalue
        exact ⟨by rw [hkey, hshape], hfinite⟩
      constructor
      · rw [untagged, untaggedEntries_eq, ofJson, entriesOfJson_eq]
        exact congrArg record (map_eq_map_of_forall₂ (hshapes.imp fun _ _ => And.left))
      · refine .record fun e he => ?_
        obtain ⟨entry, -, -, hfinite⟩ := exists_of_forall₂ hshapes.flip he
        exact hfinite
  | tagged tag v ih =>
      rw [untagged]
      exact ih h

/-- **What is converted, and into what**: a finite JSON value with any tags at it and in it, into
that value. -/
lemma toJson_eq_ok_iff {v : Yaml} {j : Json} :
    v.toJson = .ok j ↔ v.untagged = ofJson j ∧ j.Finite := by
  constructor
  · exact shape_of_toJson
  · rintro ⟨hshape, hfinite⟩
    rw [← toJson_untagged, hshape, toJson_ofJson hfinite]

/-! ## What is not converted -/

/-- A fault is one of the value: the error is about something that is in it. -/
lemma fault_in_of_toJson {v : Yaml} {fault : ConversionFault} (h : v.toJson = .error fault) :
    fault.In v := by
  induction v using Yaml.nestedInduction with
  | null | bool | integer | text => cases h
  | real x =>
      rw [toJson] at h
      split at h
      · cases h
      · next hx =>
          cases h
          exact ⟨.self, Bool.eq_false_iff.mpr hx⟩
  | list items ih =>
      rw [toJson, itemsToJson_eq, Except.map_eq_error_iff] at h
      obtain ⟨v, hv, hfault⟩ := Except.exists_of_mapM_eq_error h
      exact (ih v hv hfault).mono fun _ => .item hv
  | record entries ih =>
      rw [toJson, entriesToJson_eq, Except.map_eq_error_iff] at h
      obtain ⟨⟨k, v⟩, hentry, hfault⟩ := Except.exists_of_mapM_eq_error h
      cases k with
      | text k =>
          rw [entryToJson, Except.map_eq_error_iff] at hfault
          exact (ih _ hentry hfault).mono fun _ => .entry hentry
      | null | bool | integer | real | list | record | tagged =>
          cases hfault
          exact ⟨⟨entries, v, .self, hentry⟩, nofun⟩
  | tagged tag v ih => exact (ih h).mono fun _ => .tagged

/-- The parts of what is converted are converted. -/
lemma exists_toJson_of_part {p v : Yaml} (h : Part p v) {j : Json} (hv : v.toJson = .ok j) :
    ∃ j', p.toJson = .ok j' := by
  induction h generalizing j with
  | self => exact ⟨j, hv⟩
  | item hitem _ ih =>
      rw [toJson, itemsToJson_eq] at hv
      obtain ⟨js, hjs, -⟩ := Except.map_eq_ok_iff.mp hv
      obtain ⟨j', hj'⟩ := Except.exists_of_mapM_eq_ok hjs hitem
      exact ih hj'
  | entry hentry _ ih =>
      rw [toJson, entriesToJson_eq] at hv
      obtain ⟨es, hes, -⟩ := Except.map_eq_ok_iff.mp hv
      obtain ⟨e, he⟩ := Except.exists_of_mapM_eq_ok hes hentry
      exact ih (entryToJson_eq_ok_iff.mp he).2
  | tagged _ ih => exact ih hv

/-- Nothing in what is converted is without a JSON form. -/
lemma not_in_of_toJson {v : Yaml} {j : Json} (h : v.toJson = .ok j) (fault : ConversionFault) :
    ¬ fault.In v := by
  cases fault with
  | real x =>
      rintro ⟨hpart, hx⟩
      obtain ⟨j', hj'⟩ := exists_toJson_of_part hpart h
      rw [toJson, hx] at hj'
      cases hj'
  | key k =>
      rintro ⟨⟨entries, u, hpart, hentry⟩, hk⟩
      obtain ⟨j', hj'⟩ := exists_toJson_of_part hpart h
      rw [toJson, entriesToJson_eq] at hj'
      obtain ⟨es, hes, -⟩ := Except.map_eq_ok_iff.mp hj'
      obtain ⟨e, he⟩ := Except.exists_of_mapM_eq_ok hes hentry
      exact hk e.1 (entryToJson_eq_ok_iff.mp he).1

/-- **What is not converted**: a value in which something has no JSON form. -/
lemma exists_fault_iff {v : Yaml} :
    (∃ fault, v.toJson = .error fault) ↔ ∃ fault : ConversionFault, fault.In v := by
  constructor
  · rintro ⟨fault, h⟩
    exact ⟨fault, fault_in_of_toJson h⟩
  · rintro ⟨fault, h⟩
    cases hv : v.toJson with
    | error fault' => exact ⟨fault', rfl⟩
    | ok j => exact absurd h (not_in_of_toJson hv fault)

end Yaml

/-! ## Layouts -/

namespace Layout

/-- The layout of a YAML value: that of its JSON form. -/
def ofYaml (path : String) (v : Yaml) : Except LayoutError Layout := do
  ofDocument path (← v.toJson.mapError fun fault => .invalid path .yaml (.noJson fault))

/-- The layout of a text is that of its value. -/
lemma parse_yaml (text path : String) :
    Layout.parse text .yaml path
      = (Yaml.parse text).elim (.error (.invalid path .yaml .malformed)) (ofYaml path) := by
  simp only [Layout.parse, SnapshotFormat.document]
  cases Yaml.parse text with
  | none => rfl
  | some v =>
      simp only [Option.elim_some, ofYaml]
      cases v.toJson with
      | error fault => rfl
      | ok j => rfl

lemma ofYaml_of_shape {v : Yaml} {j : Json} (hshape : v.untagged = Yaml.ofJson j)
    (hfinite : j.Finite) (path : String) : ofYaml path v = ofDocument path j := by
  rw [ofYaml, Yaml.toJson_eq_ok_iff.mpr ⟨hshape, hfinite⟩]
  rfl

end Layout

namespace Yaml

/-- **Conversion drops tags and nothing else.**  A text is read as a YAML value, the layout of which
is that of its JSON form.  The YAML value with the structure of a finite JSON value is converted
into that value, and so the layout, or the error, is that of the JSON value.  In general a value is
not converted exactly when something in it, below any tags, is a number that is not finite or a key
that is no text, and the error is about such a thing.  Otherwise what it is converted into is what
it is without tags: the same entries and items in the same order, with the same scalars. -/
theorem toJson_keeps :
    (∀ text path, Layout.parse text .yaml path = (Yaml.parse text).elim
      (.error (.invalid path .yaml .malformed)) (Layout.ofYaml path)) ∧
    (∀ j : Json, j.Finite → (ofJson j).toJson = .ok j ∧
      ∀ path, Layout.ofYaml path (ofJson j) = Layout.ofDocument path j) ∧
    (∀ v : Yaml, (∃ fault, v.toJson = .error fault) ↔ ∃ fault : ConversionFault, fault.In v) ∧
    (∀ (v : Yaml) (fault : ConversionFault), v.toJson = .error fault → fault.In v) ∧
    ∀ (v : Yaml) (j : Json), v.toJson = .ok j ↔ v.untagged = ofJson j ∧ j.Finite := by
  refine ⟨Layout.parse_yaml, ?_, fun v => exists_fault_iff, fun v fault h => fault_in_of_toJson h,
    fun v j => toJson_eq_ok_iff⟩
  intro j hfinite
  have hj := toJson_ofJson hfinite
  exact ⟨hj, fun path => Layout.ofYaml_of_shape (shape_of_toJson hj).1 hfinite path⟩

/-! ## Numbers at the limits -/

/-- A document with the largest and the smallest whole number, and a list. -/
def limitsDocument : Json :=
  .record [("/how#top", .integer 18446744073709551615),
    ("/how#bottom", .integer (-9223372036854775808)),
    ("/how#pair", .list [.integer 9007199254740993, .real .zero])]

/-- The same in YAML, with a tag at the document and one in the list. -/
def taggedLimits : Yaml :=
  .tagged "doc" (.record [(.text "/how#top", .integer 18446744073709551615),
    (.text "/how#bottom", .integer (-9223372036854775808)),
    (.text "/how#pair", .list [.tagged "n" (.integer 9007199254740993), .real .zero])])

/-- The whole numbers come through, and are rounded only when they become numbers of the layout. -/
theorem toJson_keeps_limits :
    limitsDocument.Finite ∧ Layout.ofYaml "snap" (ofJson limitsDocument)
        = Layout.ofDocument "snap" limitsDocument ∧
      taggedLimits.toJson = .ok limitsDocument ∧
      ∃ fault, (record [(.text "/how", .tagged "t" (.list [.real (.infinity true)]))]).toJson
        = .error fault := by
  have hfinite : limitsDocument.Finite := by
    refine .record ?_
    simp only [List.forall_mem_cons]
    refine ⟨.integer _, .integer _, .list ?_, nofun⟩
    simp only [List.forall_mem_cons]
    exact ⟨.integer _, .real rfl, nofun⟩
  obtain ⟨-, hjson, hfaults, -, hkept⟩ := toJson_keeps
  refine ⟨hfinite, (hjson _ hfinite).2 "snap", (hkept _ _).mpr ⟨rfl, hfinite⟩, (hfaults _).mpr ?_⟩
  exact ⟨.real (.infinity true),
    .entry List.mem_cons_self (.tagged (.item List.mem_cons_self .self)), rfl⟩

end Yaml

end RadarConform
