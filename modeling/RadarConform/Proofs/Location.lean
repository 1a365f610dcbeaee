import RadarConform.Location
import RadarConform.Proofs.Computation
import RadarConform.Proofs.Text.Pieces
import RadarConform.Proofs.Text.Trim

/-!
# Locations and their texts

The text of a location tells its kind, and the text form of a location tells the location.

* `pieces_of_parse`, `path_of_parseAttribute` — what a location is read from.
* `isAttribute_of_parse` — a location that is read is that of an attribute exactly when its text
  holds the attribute separator.
* `isAttribute_of_parseAttribute` — a text that is known to name an attribute gives one.
* `Location.Normal`, `normal_of_parse`, `normal_of_parseAttribute` — what is read is trimmed and
  free of separators.
* `Normal.parse_text_eq`, `parse_text_of_parse` — **the text form of what is read is read as the
  same**; so it is where an attribute is called for (`parseAttribute_text_of_parse`).
-/

namespace RadarConform

namespace Location

/-! ## What is read -/

/-- A location is read from a path alone, or from a path and a name that is not blank. -/
lemma pieces_of_parse {input : String} {l : Location} (h : parse input = .ok l) :
    (∃ path, Text.pieces (· == '#') (Text.trim input.toList) = [path] ∧
        l = { segments := segmentsOf path, attributeName := none }) ∨
      ∃ path name, Text.pieces (· == '#') (Text.trim input.toList) = [path, name] ∧
        Text.trim name ≠ [] ∧
        l = { segments := segmentsOf path, attributeName := some (.ofList (Text.trim name)) } := by
  simp only [parse] at h
  split at h
  · cases h
  · split at h
    · next path hpieces =>
        cases h
        exact .inl ⟨path, hpieces, rfl⟩
    · next path name hpieces =>
        split at h
        · cases h
        · next hne =>
            cases h
            exact .inr ⟨path, name, hpieces, hne, rfl⟩
    · cases h

/-- Where an attribute is called for, a path alone is that of the attribute. -/
lemma path_of_parseAttribute {input : String} {l : Location} (h : parseAttribute input = .ok l) :
    (input.toList.contains '#' = true ∧ parse input = .ok l) ∨
      ∃ path name, parse input = .ok path ∧ path.segments.getLast? = some name ∧
        l = { segments := path.segments.dropLast, attributeName := some name } := by
  rw [parseAttribute] at h
  split at h
  · next hhash => exact .inl ⟨hhash, h⟩
  · obtain ⟨path, hpath, h⟩ := Except.bind_eq_ok_iff.mp h
    split at h
    · next name hname =>
        cases h
        exact .inr ⟨path, name, hpath, hname, rfl⟩
    · cases h

/-- A text names an attribute exactly when the attribute separator occurs in it. -/
lemma isAttribute_of_parse {input : String} {l : Location} (h : parse input = .ok l) :
    l.isAttribute = input.toList.contains '#' := by
  have hcontains : (∀ c ∈ Text.trim input.toList, (c == '#') = false) ↔
      input.toList.contains '#' = false := by
    have hmem : '#' ∈ Text.trim input.toList ↔ '#' ∈ input.toList := Text.mem_trim_iff (by decide)
    rw [Bool.eq_false_iff, ne_eq, List.contains_iff_mem, ← hmem]
    simp only [beq_eq_false_iff_ne]
    exact ⟨fun h hc => h _ hc rfl, fun h c hc heq => h (heq ▸ hc)⟩
  rcases pieces_of_parse h with ⟨path, hpieces, rfl⟩ | ⟨path, name, hpieces, -, rfl⟩
  · exact (hcontains.mp (Text.pieces_eq_singleton_iff.mp hpieces).2).symm
  · cases hfalse : input.toList.contains '#' with
    | true => rfl
    | false =>
        rw [Text.pieces_eq_singleton_iff.mpr ⟨rfl, hcontains.mpr hfalse⟩] at hpieces
        cases hpieces

/-- A text that is known to name an attribute gives an attribute. -/
lemma isAttribute_of_parseAttribute {input : String} {l : Location}
    (h : parseAttribute input = .ok l) : l.isAttribute = true := by
  rcases path_of_parseAttribute h with ⟨hhash, hparse⟩ | ⟨_, _, -, -, rfl⟩
  · rw [isAttribute_of_parse hparse, hhash]
  · rfl

/-! ## The text form -/

/-- A part of a location as reading leaves it: trimmed, not empty, and without the separator of
attributes. -/
structure IsPart (s : String) : Prop where
  ne_nil : s.toList ≠ []
  tight : Text.Tight s.toList
  hash_notMem : '#' ∉ s.toList

/-- A location as it is read. -/
structure Normal (l : Location) : Prop where
  segments : ∀ s ∈ l.segments, IsPart s ∧ '/' ∉ s.toList
  attributeName : ∀ name, l.attributeName = some name → IsPart name

lemma IsPart.trim_eq {s : String} (h : IsPart s) : Text.trim s.toList = s.toList :=
  Text.trim_eq_of_padded (Text.padded_self s.toList) h.tight

lemma isPart_of_trim {cs : List Char} (hne : Text.trim cs ≠ []) (hhash : '#' ∉ cs) :
    IsPart (.ofList (Text.trim cs)) := by
  constructor
  · rwa [String.toList_ofList]
  · rw [String.toList_ofList]
    exact Text.tight_trim cs
  · rwa [String.toList_ofList, Text.mem_trim_iff (by decide)]

lemma isPart_of_mem_segmentsOf {path : List Char} (hhash : '#' ∉ path) {s : String}
    (h : s ∈ segmentsOf path) : IsPart s ∧ '/' ∉ s.toList := by
  simp only [segmentsOf, List.mem_map, List.mem_filter, decide_eq_true_eq] at h
  obtain ⟨_, ⟨⟨p, hp, rfl⟩, hne⟩, rfl⟩ := h
  refine ⟨isPart_of_trim hne fun hmem => hhash (Text.mem_of_mem_pieces hp hmem).1, ?_⟩
  rw [String.toList_ofList, Text.mem_trim_iff (by decide)]
  intro hslash
  cases (Text.mem_of_mem_pieces hp hslash).2

/-- **What is read is trimmed and free of separators.** -/
lemma normal_of_parse {input : String} {l : Location} (h : parse input = .ok l) : l.Normal := by
  have hfree : ∀ p ∈ Text.pieces (· == '#') (Text.trim input.toList), '#' ∉ p := by
    intro p hp hhash
    cases (Text.mem_of_mem_pieces hp hhash).2
  rcases pieces_of_parse h with ⟨path, hpieces, rfl⟩ | ⟨path, name, hpieces, hne, rfl⟩
  · rw [hpieces, List.forall_mem_singleton] at hfree
    exact ⟨fun s hs => isPart_of_mem_segmentsOf hfree hs, nofun⟩
  · rw [hpieces, List.forall_mem_cons, List.forall_mem_singleton] at hfree
    refine ⟨fun s hs => isPart_of_mem_segmentsOf hfree.1 hs, fun name' heq => ?_⟩
    cases heq
    exact isPart_of_trim hne hfree.2

/-- So is the location of an attribute that is named by the last segment. -/
lemma normal_of_parseAttribute {input : String} {l : Location} (h : parseAttribute input = .ok l) :
    l.Normal := by
  rcases path_of_parseAttribute h with ⟨-, hparse⟩ | ⟨path, name, hpath, hname, rfl⟩
  · exact normal_of_parse hparse
  · have hnormal := normal_of_parse hpath
    refine ⟨fun s hs => hnormal.segments s (List.dropLast_subset _ hs), fun name' heq => ?_⟩
    cases heq
    exact (hnormal.segments name (List.mem_of_getLast? hname)).1

/-! ### Reading it -/

lemma toList_pathText {segments : List String} (h : segments ≠ []) :
    (pathText segments).toList = segments.flatMap fun s => '/' :: s.toList := by
  obtain ⟨s, ss, rfl⟩ := List.exists_cons_of_ne_nil h
  rw [pathText, String.toList_join, List.flatMap_map]
  · simp only [String.toList_append]
    rfl
  · exact nofun

/-- Every segment of a path is a piece of its own, after the empty one before the first slash. -/
lemma pieces_flatMap_segments {segments : List String} (h : ∀ s ∈ segments, '/' ∉ s.toList) :
    Text.pieces (· == '/') (segments.flatMap fun s => '/' :: s.toList)
      = [] :: segments.map String.toList := by
  induction segments with
  | nil => rfl
  | cons s ss ih =>
      obtain ⟨hs, hss⟩ := List.forall_mem_cons.mp h
      rw [List.flatMap_cons, List.cons_append, Text.pieces,
        Text.pieces_append_of_free (Text.free_of_notMem hs), ih hss,
        if_pos (beq_self_eq_true '/'), List.modifyHead_cons, List.append_nil, List.map_cons]

variable {l : Location}

/-- **The segments of a path are read back from it.** -/
lemma Normal.segmentsOf_pathText (h : l.Normal) :
    segmentsOf (pathText l.segments).toList = l.segments := by
  by_cases hnil : l.segments = []
  · rw [hnil]
    rfl
  · have hpieces : (l.segments.map String.toList).map Text.trim = l.segments.map String.toList := by
      rw [List.map_map]
      exact List.map_congr_left fun s hs => (h.segments s hs).1.trim_eq
    have hkept : (l.segments.map String.toList).filter (· ≠ []) = l.segments.map String.toList := by
      simp only [List.filter_eq_self, List.forall_mem_map, decide_eq_true_eq]
      exact fun s hs => (h.segments s hs).1.ne_nil
    rw [segmentsOf, toList_pathText hnil, pieces_flatMap_segments fun s hs => (h.segments s hs).2,
      List.map_cons, hpieces, List.filter_cons_of_neg (by decide), hkept, List.map_map]
    exact List.map_id'' (fun _ => String.ofList_toList) l.segments

lemma Normal.hash_notMem_pathText (h : l.Normal) : '#' ∉ (pathText l.segments).toList := by
  by_cases hnil : l.segments = []
  · rw [hnil]
    decide
  · rw [toList_pathText hnil, List.mem_flatMap]
    rintro ⟨s, hs, hmem⟩
    rcases List.mem_cons.mp hmem with heq | hmem
    · cases heq
    · exact (h.segments s hs).1.hash_notMem hmem

/-- The path starts with a slash, and the last segment is trimmed. -/
lemma Normal.tight_pathText (h : l.Normal) :
    Text.Tight (pathText l.segments).toList ∧ (pathText l.segments).toList ≠ [] := by
  by_cases hnil : l.segments = []
  · have hroot : (pathText []).toList = ['/'] := rfl
    rw [hnil, hroot]
    exact ⟨Text.tight_of_forall (List.forall_mem_singleton.mpr (by decide)), List.cons_ne_nil _ _⟩
  · rw [toList_pathText hnil]
    obtain ⟨first, rest, hcons⟩ := List.exists_cons_of_ne_nil hnil
    obtain ⟨init, last, hconcat⟩ := (List.eq_nil_or_concat l.segments).resolve_left hnil
    have hlast : IsPart last := (h.segments last (by rw [hconcat]; simp)).1
    refine ⟨⟨fun c hc => ?_, fun c hc => ?_⟩, ?_⟩
    · rw [hcons] at hc
      cases hc
      decide
    · rw [hconcat, List.concat_eq_append, List.flatMap_append, List.flatMap_singleton,
        List.getLast?_append_of_ne_nil _ (List.cons_ne_nil _ _),
        List.getLast?_cons_of_ne_nil hlast.ne_nil] at hc
      exact hlast.tight.2 c hc
    · rw [hcons]
      exact nofun

/-- **A location as it is read is read back from its text form.** -/
lemma Normal.parse_text_eq (h : l.Normal) : parse l.text = .ok l := by
  obtain ⟨htight, hne⟩ := h.tight_pathText
  have hfree := Text.free_of_notMem h.hash_notMem_pathText
  cases hname : l.attributeName with
  | none =>
      have htext : l.text.toList = (pathText l.segments).toList := by simp [text, hname]
      rw [parse, htext, Text.trim_eq_of_padded (Text.padded_self _) htight]
      simp only [hne, if_false, Text.pieces_of_free hfree, h.segmentsOf_pathText]
      rw [← hname]
  | some name =>
      have hpart := h.attributeName name hname
      have htext : l.text.toList
          = (pathText l.segments).toList ++ ['#'] ++ name.toList := by
        simp [text, hname]
      have hpieces : Text.pieces (· == '#') l.text.toList
          = [(pathText l.segments).toList, name.toList] := by
        rw [htext, List.append_assoc, List.singleton_append, Text.pieces_append (by decide),
          Text.pieces_of_free hfree, Text.pieces_of_free (Text.free_of_notMem hpart.hash_notMem)]
        rfl
      have htrim : Text.trim l.text.toList = l.text.toList := by
        refine Text.trim_eq_of_padded (Text.padded_self _) ?_
        rw [htext]
        exact Text.tight_append htight hpart.tight hne hpart.ne_nil
      have htextNe : l.text.toList ≠ [] := by
        rw [htext]
        simp
      rw [parse, htrim]
      simp only [htextNe, if_false, hpieces, hpart.trim_eq, hpart.ne_nil, String.ofList_toList,
        h.segmentsOf_pathText]
      rw [← hname]

/-- **The text form of what is read is read as the same location.** -/
lemma parse_text_of_parse {input : String} (h : parse input = .ok l) : parse l.text = .ok l :=
  (normal_of_parse h).parse_text_eq

/-- The text form of an attribute has the separator in it, so it names one wherever it stands. -/
lemma Normal.parseAttribute_text_eq (h : l.Normal) (hattribute : l.isAttribute = true) :
    parseAttribute l.text = .ok l := by
  have htext := h.parse_text_eq
  rw [parseAttribute, ← isAttribute_of_parse htext, if_pos hattribute, htext]

lemma parseAttribute_text_of_parse {input : String} (h : parse input = .ok l)
    (hattribute : l.isAttribute = true) : parseAttribute l.text = .ok l :=
  (normal_of_parse h).parseAttribute_text_eq hattribute

end Location

end RadarConform
