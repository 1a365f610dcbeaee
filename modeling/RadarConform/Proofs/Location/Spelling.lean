import Mathlib.Logic.Relation
import RadarConform.Proofs.Location

/-!
# Spellings of a location

A location has many texts.  Further slashes and white space may stand beside every slash of its path
and at the end of the path, and white space around its name and around the whole text; none of this
reaches the segments.

* `Gap`, `segmentsOf_append_slash`, `segmentsOf_append_gap` — **a slash cuts a path in two**, and
  gaps of slashes and white space add no segment.
* `Reads`, `parse_eq_iff` — **the five ways in which a text can be read**, told by its separators
  and by which of its parts are blank.
* `Widens` — one insertion into a path, and `SpellsPath.widens`: it stays a path to the same
  segments.
* `parse_widened` — **reading any spelling gives what building from the parts gives**, and when
  reading fails.
-/

namespace RadarConform.Location

open Text

/-! ## Paths -/

/-- A run of slashes and white space. -/
def Gap (cs : List Char) : Prop := ∀ c ∈ cs, c = '/' ∨ isBlank c = true

instance (cs : List Char) : Decidable (Gap cs) := List.decidableBAll _ cs

lemma gap_of_blank {cs : List Char} (h : Blank cs) : Gap cs := fun c hc => .inr (h c hc)

lemma Gap.hash_notMem {w : List Char} (h : Gap w) : '#' ∉ w :=
  fun hmem => absurd (h '#' hmem) (by decide)

/-- White space holds no separator of the notation. -/
lemma free_of_blank {w : List Char} (h : Blank w) {c : Char} (hc : isBlank c = false) :
    ∀ b ∈ w, (b == c) = false := by
  refine free_of_notMem fun hmem => ?_
  rw [h c hmem] at hc
  cases hc

/-- **A slash cuts a path in two.** -/
lemma segmentsOf_append_slash (u v : List Char) :
    segmentsOf (u ++ '/' :: v) = segmentsOf u ++ segmentsOf v := by
  rw [segmentsOf, pieces_append (by decide), List.map_append, List.filter_append, List.map_append]
  rfl

lemma segmentsOf_slash_cons (v : List Char) : segmentsOf ('/' :: v) = segmentsOf v :=
  segmentsOf_append_slash [] v

/-- White space after a path goes into its last piece. -/
lemma segmentsOf_append_blank (u : List Char) {w : List Char} (h : Blank w) :
    segmentsOf (u ++ w) = segmentsOf u := by
  have hfree : ∀ c ∈ w, (c == '/') = false := free_of_blank h (by decide)
  obtain ⟨ps, p, hu, happend⟩ := exists_pieces_append_of_free u hfree
  have hpad : Padded p (p ++ w) := ⟨[], w, blank_nil, h, rfl⟩
  rw [segmentsOf, segmentsOf, happend, hu, List.map_append, List.map_append, List.map_singleton,
    List.map_singleton, hpad.trim_eq]

/-- White space before a path goes into its first piece. -/
lemma segmentsOf_blank_append (u : List Char) {w : List Char} (h : Blank w) :
    segmentsOf (w ++ u) = segmentsOf u := by
  obtain ⟨p, ps, hu⟩ := List.exists_cons_of_ne_nil (pieces_ne_nil (· == '/') u)
  have hpad : Padded p (w ++ p) := ⟨w, [], h, blank_nil, by simp⟩
  rw [segmentsOf, segmentsOf, pieces_append_of_free (free_of_blank h (by decide)), hu,
    List.modifyHead_cons, List.map_cons, List.map_cons, hpad.trim_eq]

/-- A gap after a path adds no segment. -/
lemma segmentsOf_append_gap (u : List Char) {w : List Char} (h : Gap w) :
    segmentsOf (u ++ w) = segmentsOf u := by
  induction w generalizing u with
  | nil => rw [List.append_nil]
  | cons c w ih =>
      obtain ⟨hc, hw⟩ := List.forall_mem_cons.mp h
      rcases hc with rfl | hblank
      · have hgap : segmentsOf w = [] := ih [] hw
        rw [segmentsOf_append_slash, hgap, List.append_nil]
      · rw [List.append_cons, ih _ hw, segmentsOf_append_blank]
        exact List.forall_mem_singleton.mpr hblank

/-- A gap before a path adds no segment. -/
lemma segmentsOf_gap_append (u : List Char) {w : List Char} (h : Gap w) :
    segmentsOf (w ++ u) = segmentsOf u := by
  induction w with
  | nil => rw [List.nil_append]
  | cons c w ih =>
      obtain ⟨hc, hw⟩ := List.forall_mem_cons.mp h
      rw [List.cons_append]
      rcases hc with rfl | hblank
      · rw [segmentsOf_slash_cons, ih hw]
      · rw [← List.singleton_append,
          segmentsOf_blank_append _ (List.forall_mem_singleton.mpr hblank), ih hw]

lemma segmentsOf_trimStart (u : List Char) : segmentsOf (trimStart u) = segmentsOf u := by
  obtain ⟨before, hbefore, heq⟩ := exists_blank_trimStart u
  rw [congrArg segmentsOf heq, segmentsOf_blank_append _ hbefore]

lemma segmentsOf_trim (u : List Char) : segmentsOf (trim u) = segmentsOf u := by
  obtain ⟨before, after, hbefore, hafter, heq⟩ := padded_trim u
  rw [congrArg segmentsOf heq, segmentsOf_append_blank _ hafter,
    segmentsOf_blank_append _ hbefore]

/-- The segments of joined texts are those of each text, in turn. -/
lemma segmentsOf_joined (segments : List String) :
    segmentsOf (joined "/" segments).toList = segments.flatMap (segmentsOf ·.toList) := by
  induction segments with
  | nil => rfl
  | cons s rest ih =>
      cases rest with
      | nil => rw [joined, List.flatMap_singleton]
      | cons t rest =>
          have hjoined : (joined "/" (s :: t :: rest)).toList
              = s.toList ++ '/' :: (joined "/" (t :: rest)).toList := by
            simp [joined]
          rw [hjoined, segmentsOf_append_slash, ih]
          rfl

/-- A name that makes one segment: it holds no separator and no slash, and something is left of it
after trimming. -/
structure IsSegment (name : String) : Prop where
  hash_notMem : '#' ∉ name.toList
  slash_notMem : '/' ∉ name.toList
  trim_ne_nil : trim name.toList ≠ []

lemma IsSegment.not_blank {name : String} (h : IsSegment name) : ¬ Blank name.toList :=
  fun hblank => h.trim_ne_nil (trim_eq_nil_iff.mpr hblank)

lemma IsSegment.segmentsOf_eq {name : String} (h : IsSegment name) :
    segmentsOf name.toList = [.ofList (trim name.toList)] := by
  rw [segmentsOf, pieces_of_free (free_of_notMem h.slash_notMem), List.map_singleton,
    List.filter_cons_of_pos (by simpa using h.trim_ne_nil)]
  rfl

/-! ## Reading -/

/-- How a text is read: by the number of its separators, and by which of its parts are blank. -/
inductive Reads (input : String) : Except LocationError Location → Prop
  | blank : Blank input.toList → Reads input (.error .empty)
  | path : '#' ∉ input.toList → ¬ Blank input.toList →
      Reads input (.ok { segments := segmentsOf input.toList, attributeName := none })
  | named {path name : List Char} : input.toList = path ++ '#' :: name → '#' ∉ path → '#' ∉ name →
      ¬ Blank name →
      Reads input (.ok { segments := segmentsOf path, attributeName := some (.ofList (trim name)) })
  | nameless {path name : List Char} : input.toList = path ++ '#' :: name → '#' ∉ path →
      Blank name → Reads input (.error (.emptyAttribute input))
  | several : 2 ≤ input.toList.count '#' → Reads input (.error (.multipleSeparators input))

/-- The two sides of a separator are what is left of them after trimming the whole text. -/
lemma pieces_trim_hash {path name : List Char} (hpath : '#' ∉ path) :
    pieces (· == '#') (trim (path ++ '#' :: name)) =
      trimStart path :: pieces (· == '#') (trimEnd name) := by
  have hstart : '#' ∉ trimStart path := fun h => hpath ((List.dropWhile_sublist _).subset h)
  rw [trim_append_cons (by decide), pieces_append (by decide),
    pieces_of_free (free_of_notMem hstart), List.singleton_append]

lemma trim_append_hash_ne_nil (path name : List Char) : trim (path ++ '#' :: name) ≠ [] := by
  rw [trim_append_cons (by decide)]
  simp

lemma pieces_trimEnd_hash {name : List Char} (hname : '#' ∉ name) :
    pieces (· == '#') (trimEnd name) = [trimEnd name] := by
  refine pieces_of_free (free_of_notMem fun h => hname ?_)
  exact List.mem_reverse.mp ((List.dropWhile_sublist _).subset (List.mem_reverse.mp h))

lemma trim_trimEnd (name : List Char) : trim (trimEnd name) = trim name := by
  obtain ⟨after, hafter, heq⟩ := exists_blank_trimEnd name
  have hpad : Padded (trimEnd name) name := ⟨[], after, blank_nil, hafter, heq⟩
  exact hpad.trim_eq.symm

/-- A text with two separators or more is in three pieces or more. -/
lemma three_le_length_pieces {cs : List Char} (h : 2 ≤ cs.count '#') :
    3 ≤ (pieces (· == '#') (trim cs)).length := by
  obtain ⟨path, name, rfl, hpath⟩ :=
    List.eq_append_cons_of_mem (List.count_pos_iff.mp (by omega : 0 < cs.count '#'))
  have hname : '#' ∈ name := by
    rw [List.count_append, List.count_cons_self, List.count_eq_zero_of_not_mem hpath] at h
    exact List.count_pos_iff.mp (by omega)
  obtain ⟨u, v, rfl⟩ := List.append_of_mem hname
  have hu := List.length_pos_iff.mpr (pieces_ne_nil (· == '#') u)
  have hv := List.length_pos_iff.mpr (pieces_ne_nil (· == '#') (trimEnd v))
  rw [pieces_trim_hash hpath, trimEnd_append_cons (by decide),
    pieces_append (by decide), List.length_cons, List.length_append]
  omega

variable {input : String} {r : Except LocationError Location}

lemma Reads.parse_eq (h : Reads input r) : parse input = r := by
  cases h with
  | blank hblank => rw [parse, trim_eq_nil_iff.mpr hblank, if_pos rfl]
  | path hhash hblank =>
      have hne : trim input.toList ≠ [] := fun heq => hblank (trim_eq_nil_iff.mp heq)
      have hfree : '#' ∉ trim input.toList := fun h => hhash ((mem_trim_iff (by decide)).mp h)
      simp only [parse, if_neg hne, pieces_of_free (free_of_notMem hfree), segmentsOf_trim]
  | @named path name hinput hpath hname hblank =>
      have hne : trim name ≠ [] := fun heq => hblank (trim_eq_nil_iff.mp heq)
      simp only [parse, hinput, if_neg (trim_append_hash_ne_nil path name), pieces_trim_hash hpath,
        pieces_trimEnd_hash hname, trim_trimEnd, if_neg hne, segmentsOf_trimStart]
  | @nameless path name hinput hpath hblank =>
      have hname : '#' ∉ name := (gap_of_blank hblank).hash_notMem
      simp only [parse, hinput, if_neg (trim_append_hash_ne_nil path name), pieces_trim_hash hpath,
        pieces_trimEnd_hash hname, trim_trimEnd, if_pos (trim_eq_nil_iff.mpr hblank)]
  | several hcount =>
      have hlength := three_le_length_pieces hcount
      have hne : trim input.toList ≠ [] := by
        intro heq
        rw [heq] at hlength
        exact absurd hlength (by decide)
      rw [parse, if_neg hne]
      split
      · next heq =>
          rw [heq] at hlength
          exact absurd hlength (by simp)
      · next heq =>
          rw [heq] at hlength
          exact absurd hlength (by simp)
      · rfl

/-- Every text is read in one of the five ways. -/
lemma exists_reads (input : String) : ∃ r, Reads input r := by
  by_cases hhash : '#' ∈ input.toList
  · obtain ⟨path, name, hinput, hpath⟩ := List.eq_append_cons_of_mem hhash
    by_cases hname : '#' ∈ name
    · refine ⟨_, .several ?_⟩
      have := List.count_pos_iff.mpr hname
      rw [hinput, List.count_append, List.count_cons_self]
      omega
    · by_cases hblank : Blank name
      · exact ⟨_, .nameless hinput hpath hblank⟩
      · exact ⟨_, .named hinput hpath hname hblank⟩
  · by_cases hblank : Blank input.toList
    · exact ⟨_, .blank hblank⟩
    · exact ⟨_, .path hhash hblank⟩

/-- **What a text is read as**, be it a location or an error. -/
lemma parse_eq_iff : parse input = r ↔ Reads input r := by
  refine ⟨?_, Reads.parse_eq⟩
  rintro rfl
  obtain ⟨r, hr⟩ := exists_reads input
  rwa [hr.parse_eq]

/-! ## Further slashes and white space -/

/-- One insertion into a path: beside a slash, at its end, or white space at its start. -/
inductive Widens : List Char → List Char → Prop
  | afterSlash (u v : List Char) {gap : List Char} : Gap gap →
      Widens (u ++ '/' :: v) (u ++ '/' :: (gap ++ v))
  | beforeSlash (u v : List Char) {gap : List Char} : Gap gap →
      Widens (u ++ '/' :: v) (u ++ gap ++ '/' :: v)
  | atEnd (u : List Char) {gap : List Char} : Gap gap → Widens u (u ++ gap)
  | atStart (u : List Char) {before : List Char} : Blank before → Widens u (before ++ u)

variable {segments : List String} {path path' : List Char}

/-- An insertion takes nothing away. -/
lemma Widens.sublist (h : Widens path path') : path.Sublist path' := by
  cases h with
  | @afterSlash u v gap =>
      exact (List.Sublist.refl u).append ((List.sublist_append_right gap v).cons_cons '/')
  | @beforeSlash u v gap => exact (List.sublist_append_left u gap).append (.refl _)
  | atEnd => exact List.sublist_append_left _ _
  | atStart => exact List.sublist_append_right _ _

lemma Widens.gap_of_notMem (h : Widens path path') {c : Char} (hc : c ∈ path')
    (hnew : c ∉ path) : c = '/' ∨ isBlank c = true := by
  cases h with
  | afterSlash u v hgap | beforeSlash u v hgap | atEnd u hgap =>
      simp only [List.mem_append, List.mem_cons] at hc hnew
      exact hgap c (by tauto)
  | atStart u hbefore =>
      simp only [List.mem_append] at hc
      exact .inr (hbefore c (by tauto))

/-- **An insertion leaves the segments alone.** -/
lemma Widens.segmentsOf_eq (h : Widens path path') : segmentsOf path' = segmentsOf path := by
  cases h with
  | afterSlash u v hgap =>
      rw [segmentsOf_append_slash, segmentsOf_gap_append v hgap, segmentsOf_append_slash]
  | beforeSlash u v hgap =>
      rw [segmentsOf_append_slash, segmentsOf_append_gap u hgap, segmentsOf_append_slash]
  | atEnd _ hgap => exact segmentsOf_append_gap path hgap
  | atStart _ hbefore => exact segmentsOf_blank_append path hbefore

/-- A path to the end of some segments, as it may stand in the text of a location. -/
structure SpellsPath (segments : List String) (path : List Char) : Prop where
  segments_eq : segmentsOf path = segments
  hash_notMem : '#' ∉ path
  not_blank : ¬ Blank path

/-- One insertion makes another spelling. -/
lemma SpellsPath.widens (h : SpellsPath segments path) (hstep : Widens path path') :
    SpellsPath segments path' where
  segments_eq := hstep.segmentsOf_eq.trans h.segments_eq
  hash_notMem hmem := absurd (hstep.gap_of_notMem hmem h.hash_notMem) (by decide)
  not_blank hblank := h.not_blank fun c hc => hblank c (hstep.sublist.subset hc)

/-- So does any number of insertions, one after the other. -/
lemma SpellsPath.widened (h : SpellsPath segments path)
    (hsteps : Relation.ReflTransGen Widens path path') : SpellsPath segments path' := by
  induction hsteps with
  | refl => exact h
  | tail _ hstep ih => exact ih.widens hstep

lemma SpellsPath.parse_eq (h : SpellsPath segments path) :
    parse (.ofList path) = .ok { segments, attributeName := none } := by
  have hreads : Reads (.ofList path) _ :=
    .path (by simpa using h.hash_notMem) (by simpa using h.not_blank)
  rw [hreads.parse_eq, String.toList_ofList, h.segments_eq]

lemma SpellsPath.parse_named (h : SpellsPath segments path) {name text : List Char}
    (hhash : '#' ∉ name) (hblank : ¬ Blank name) (hpad : Padded name text) :
    parse (.ofList (path ++ '#' :: text))
      = .ok { segments, attributeName := some (.ofList (trim name)) } := by
  have htext : '#' ∉ text := fun hmem => by
    rw [← mem_trim_iff (by decide), hpad.trim_eq, mem_trim_iff (by decide)] at hmem
    exact hhash hmem
  have hne : ¬ Blank text := fun h => by
    rw [← trim_eq_nil_iff, hpad.trim_eq, trim_eq_nil_iff] at h
    exact hblank h
  have hreads : Reads (.ofList (path ++ '#' :: text)) _ :=
    .named (by simp) h.hash_notMem htext hne
  rw [hreads.parse_eq, h.segments_eq, hpad.trim_eq]

/-- The path that is written for some segments, which may hold slashes of their own. -/
lemma spellsPath_joined (h : ∀ s ∈ segments, '#' ∉ s.toList) :
    SpellsPath (container segments).segments ('/' :: (joined "/" segments).toList) where
  segments_eq := by
    rw [segmentsOf_slash_cons, segmentsOf_joined]
    rfl
  hash_notMem hmem := by
    rcases List.mem_cons.mp hmem with heq | hmem
    · cases heq
    · rcases mem_joined hmem with hslash | ⟨s, hs, hmem⟩
      · exact absurd hslash (by decide)
      · exact h s hs hmem
  not_blank hblank := by cases hblank '/' List.mem_cons_self

/-! ## Building and reading -/

/-- Why a text is no location: there is nothing in it, there are too many separators, or there is
nothing after the one that there is. -/
lemma parse_eq_error_iff {e : LocationError} : parse input = .error e ↔
    (e = .empty ∧ trim input.toList = []) ∨
      (e = .multipleSeparators input ∧ 2 ≤ input.toList.count '#') ∨
        (e = .emptyAttribute input ∧ ∃ path name, input.toList = path ++ '#' :: name ∧
          '#' ∉ path ∧ Blank name) := by
  rw [parse_eq_iff]
  constructor
  · intro h
    cases h with
    | blank hblank => exact .inl ⟨rfl, trim_eq_nil_iff.mpr hblank⟩
    | several hcount => exact .inr (.inl ⟨rfl, hcount⟩)
    | nameless hinput hpath hblank => exact .inr (.inr ⟨rfl, _, _, hinput, hpath, hblank⟩)
  · rintro (⟨rfl, hblank⟩ | ⟨rfl, hcount⟩ | ⟨rfl, path, name, hinput, hpath, hblank⟩)
    · exact .blank (trim_eq_nil_iff.mp hblank)
    · exact .several hcount
    · exact .nameless hinput hpath hblank

/-- **Reading and building agree on every spelling.**  Take some segments, which may hold slashes
and white space of their own, and the path that joins them with slashes.  However the path is
widened by further slashes and white space, reading it gives the group that is built from the
segments; and with the separator and a name after it, around which white space may stand, the
attribute of that name.  Reading fails only for a text in which there is nothing but white space,
for one with two separators or more, and for one with nothing but white space after its only
separator. -/
theorem parse_widened :
    (∀ segments : List String, (∀ s ∈ segments, '#' ∉ s.toList) → ∀ path,
      Relation.ReflTransGen Widens ('/' :: (joined "/" segments).toList) path →
        parse (.ofList path) = .ok (container segments) ∧
          ∀ name : String, '#' ∉ name.toList → trim name.toList ≠ [] → ∀ text,
            Padded name.toList text →
              parse (.ofList (path ++ '#' :: text)) = .ok (ofAttribute segments name)) ∧
      ∀ (input : String) (e : LocationError), parse input = .error e ↔
        (e = .empty ∧ trim input.toList = []) ∨
          (e = .multipleSeparators input ∧ 2 ≤ input.toList.count '#') ∨
            (e = .emptyAttribute input ∧ ∃ path name, input.toList = path ++ '#' :: name ∧
              '#' ∉ path ∧ Blank name) := by
  refine ⟨fun segments hsegments path hsteps => ?_, fun input e => parse_eq_error_iff⟩
  have hpath := (spellsPath_joined hsegments).widened hsteps
  refine ⟨hpath.parse_eq, fun name hhash hne text hpad => ?_⟩
  exact hpath.parse_named hhash (fun hblank => hne (trim_eq_nil_iff.mpr hblank)) hpad

/-- A segment that holds slashes, with white space and slashes beside slashes of the path and at
both ends, and a name that holds a slash. -/
theorem parse_widened_padded :
    parse " /\u2003how/ //scan 1/ /" = .ok (container ["how", "/scan 1/"]) ∧
      parse " /\u2003how/ //scan 1/ /# start /time " =
        .ok (ofAttribute ["how", "/scan 1/"] "start /time") := by
  have hbefore : Widens "/how//scan 1/".toList " /how//scan 1/".toList :=
    @Widens.atStart _ [' '] (by decide)
  have hafterSlash : Widens " /how//scan 1/".toList " /\u2003how//scan 1/".toList :=
    @Widens.afterSlash [' '] "how//scan 1/".toList ['\u2003'] (by decide)
  have hbeforeSlash : Widens " /\u2003how//scan 1/".toList " /\u2003how/ //scan 1/".toList :=
    @Widens.beforeSlash " /\u2003how/".toList "scan 1/".toList [' ', '/'] (by decide)
  have hend : Widens " /\u2003how/ //scan 1/".toList " /\u2003how/ //scan 1/ /".toList :=
    @Widens.atEnd _ [' ', '/'] (by decide)
  have hsteps := ((Relation.ReflTransGen.single hbefore).tail hafterSlash).tail hbeforeSlash
  obtain ⟨hpath, hname⟩ := parse_widened.1 ["how", "/scan 1/"] (by decide) _ (hsteps.tail hend)
  exact ⟨hpath, hname "start /time" (by decide) (by decide) " start /time ".toList
    ⟨[' '], [' '], by decide, by decide, rfl⟩⟩

end RadarConform.Location
