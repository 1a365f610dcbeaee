import RadarConform.Proofs.Comparison.NaiveWalk
import RadarConform.Proofs.Pattern.LiteralSize
import RadarConform.Proofs.WholeText

/-!
# Parts of a location that are no patterns

A part of a rule's location without pattern characters is taken for itself and never read as a
pattern.  If it were read as one, the only thing to change would be the meaning of its points: the
pattern characters and the point are all that starts something other than a literal character.

* `AnchoredPart` — what a part describes that is read as a pattern between the anchors.
* `LocationMatcher.compilePatterns` — compiles every part as a pattern, however it is written.
* `accepts_iff_anchored`, `exists_compilePatterns_iff` — for parts without points both readings
  describe the same, and the second one fails in addition where a literal part has more bytes than a
  pattern may have.
* `accepts_asPatterns` — **nothing is lost but the meaning of points**; a location of literal parts
  describes itself only, and one with patterns keeps the number of its segments and its attribute.
-/

namespace RadarConform

open Pattern SegmentMatcher LocationMatcher

/-! ## Parts as patterns -/

/-- What a part describes that is read between the anchors: the texts in which its pattern is
found. -/
def AnchoredPart (s t : String) : Prop := ∃ p, whole? s = some p ∧ p.FoundIn t.toList

/-- Compiles a part of a location as a pattern, whether it is written as one or not. -/
def SegmentMatcher.compilePattern (location : Location) (s : String) :
    Except SegmentFault SegmentMatcher :=
  match compiled? s with
  | some p => .ok (.pattern p)
  | none => .error { location, segment := s }

/-- Compiles the location of a rule with every part as a pattern. -/
def LocationMatcher.compilePatterns (location : Location) :
    Except SegmentFault LocationMatcher :=
  compileBy (compilePattern location) location

namespace LocationMatcher

variable {l : Location} {s : String}

/-- A text without pattern characters and points is one without marks. -/
lemma markless_of_literal (hs : isPatternText s = false) (hpoint : '.' ∉ s.toList) :
    Markless s.toList := by
  intro c hc hmark
  have hplain : c ∉ patternChars := by
    simpa using List.any_eq_false.mp hs c hc
  have hmarks : ∀ c ∈ marks, c = '.' ∨ c ∈ patternChars := by simp [marks, patternChars]
  rcases hmarks c hmark with rfl | hpattern
  · exact hpoint hc
  · exact hplain hpattern

/-- What was read between the anchors is found where it describes something. -/
lemma found_iff_anchoredPart {p : Pattern} (h : whole? s = some p) (t : String) :
    p.found t.toList = true ↔ AnchoredPart s t := by
  obtain ⟨item, hitem, -, rfl⟩ := parse?_eq_some_iff.mp h
  rw [found_iff (ordered_of_item? hitem)]
  simp only [AnchoredPart, h, Option.some.injEq, exists_eq_left']

/-- As a pattern, a text without pattern characters and points describes itself only. -/
lemma anchoredPart_iff_of_literal (hs : isPatternText s = false) (hpoint : '.' ∉ s.toList)
    (t : String) : AnchoredPart s t ↔ s = t := by
  have hwhole := whole?_markless (markless_of_literal hs hpoint)
  rw [← found_iff_anchoredPart hwhole, found_between_literal_iff, String.toList_inj]
  exact eq_comm

lemma compilePattern_eq_ok_iff {m : SegmentMatcher} :
    compilePattern l s = .ok m ↔ ∃ p, compiled? s = some p ∧ m = .pattern p := by
  unfold compilePattern
  cases compiled? s with
  | none => simp
  | some p => simp [eq_comm]

/-- A pattern describes what is found between its anchors. -/
lemma accepts_iff_of_compilePattern {m : SegmentMatcher} (h : compilePattern l s = .ok m)
    (t : String) : m.accepts t = true ↔ AnchoredPart s t := by
  obtain ⟨p, hp, rfl⟩ := compilePattern_eq_ok_iff.mp h
  exact found_iff_anchoredPart (compiled?_iff_whole?.mp hp).1 t

/-- Only what is written as a pattern is compiled as one. -/
lemma compile_eq_ite (l : Location) (s : String) : SegmentMatcher.compile l s
    = if isPatternText s then compilePattern l s else .ok (.literal s) := rfl

/-! ## Parts without points -/

/-- **A part without points** describes what it describes as a pattern, whichever way it is
compiled. -/
lemma accepts_iff_anchored {m : SegmentMatcher} (hpoint : '.' ∉ s.toList)
    (h : SegmentMatcher.compile l s = .ok m) (t : String) :
    m.accepts t = true ↔ AnchoredPart s t := by
  rw [compile_eq_ite] at h
  cases hpattern : isPatternText s with
  | true =>
      rw [hpattern, if_pos rfl] at h
      exact accepts_iff_of_compilePattern h t
  | false =>
      rw [hpattern, if_neg Bool.false_ne_true] at h
      cases h
      rw [anchoredPart_iff_of_literal hpattern hpoint, SegmentMatcher.accepts, beq_iff_eq]

/-- **All parts as patterns.**  They compile when the location compiles, unless a part without
pattern characters has too many bytes for a pattern. -/
lemma exists_compilePatterns_iff (hpoints : ∀ s ∈ l.parts, '.' ∉ s.toList) :
    (∃ m, compilePatterns l = .ok m) ↔ (∃ m, compile l = .ok m) ∧
      ∀ s ∈ l.parts, isPatternText s = false → s.utf8ByteSize ≤ literalLimit := by
  have hpart : ∀ s ∈ l.parts, (∃ m, compilePattern l s = .ok m) ↔
      (isPatternText s = true → ∃ p, compiled? s = some p) ∧
        (isPatternText s = false → s.utf8ByteSize ≤ literalLimit) := by
    intro s hs
    have hcompiled : (∃ m, compilePattern l s = .ok m) ↔ ∃ p, compiled? s = some p := by
      simp only [compilePattern_eq_ok_iff]
      exact ⟨fun ⟨_, p, hp, _⟩ => ⟨p, hp⟩, fun ⟨p, hp⟩ => ⟨_, p, hp, rfl⟩⟩
    cases hpattern : isPatternText s with
    | true => simp [hcompiled]
    | false =>
        have hmarkless := markless_of_literal hpattern (hpoints s hs)
        simp [hcompiled, compiled?_markless_iff hmarkless]
  rw [compilePatterns, exists_compileBy_iff, WholeText.exists_compileLocation_iff, ← forall₂_and]
  exact forall₂_congr hpart

/-! ## Literal locations -/

/-- The matcher of a location, if its parts are literal. -/
def ofLiterals (l : Location) : LocationMatcher :=
  { location := l, segments := l.segments.map .literal
    attributeName := l.attributeName.map .literal }

lemma isLiteral_ofLiterals (l : Location) : (ofLiterals l).isLiteral = true := by
  cases hname : l.attributeName with
  | none => simp [isLiteral, ofLiterals, SegmentMatcher.isLiteral, hname]
  | some s => simp [isLiteral, ofLiterals, SegmentMatcher.isLiteral, hname]

/-- A location without patterns is compiled to literal parts. -/
lemma compile_of_literal (h : ∀ s ∈ l.parts, isPatternText s = false) :
    compile l = .ok (ofLiterals l) := by
  have hpart : ∀ s ∈ l.parts, SegmentMatcher.compile l s = .ok (.literal s) := by
    intro s hs
    rw [compile_eq_ite, h s hs]
    rfl
  rw [Location.parts, List.forall_mem_append] at hpart
  rw [compile_eq_ok_iff]
  refine ⟨rfl, ?_, ?_⟩
  · rw [ofLiterals, List.forall₂_map_right_iff, List.forall₂_same]
    exact hpart.1
  · rw [ofLiterals]
    generalize l.attributeName = name at hpart ⊢
    cases name with
    | none => exact .none
    | some s => exact .some (hpart.2 s (by simp))

/-- It describes itself only. -/
lemma accepts_ofLiterals_iff (h : ∀ s ∈ l.parts, isPatternText s = false) (k : Location) :
    (ofLiterals l).accepts k = true ↔ k = l := by
  rw [Comparison.accepts_eq_of_isLiteral (compile_of_literal h) (isLiteral_ofLiterals l),
    beq_iff_eq]

/-! ## What is lost -/

/-- **Parts that are taken for themselves lose nothing but the meaning of points.**  Let no part of
a rule's location have a point in it.

* Its matcher accepts the locations with parts in the same places in which the patterns of its
  parts, put between the anchors, are found one by one, whether a part is written as a pattern or
  not.
* Compiling all parts as patterns gives a matcher that accepts the same locations; it gives none
  only if the location does not compile at all, or a part without pattern characters has more than
  `literalLimit` bytes.

With points or without, a location of literal parts has a matcher that accepts this location and no
other, and a location with a pattern describes only locations with as many segments, of an attribute
if it is that of one. -/
theorem accepts_asPatterns (l : Location) :
    ((∀ s ∈ l.parts, '.' ∉ s.toList) →
      (∀ m, compile l = .ok m → ∀ k, m.accepts k = true ↔
        List.Forall₂ AnchoredPart l.segments k.segments ∧
          Option.Rel AnchoredPart l.attributeName k.attributeName) ∧
      ((∃ v, compilePatterns l = .ok v) ↔ (∃ m, compile l = .ok m) ∧
        ∀ s ∈ l.parts, isPatternText s = false → s.utf8ByteSize ≤ literalLimit) ∧
      ∀ m v, compile l = .ok m → compilePatterns l = .ok v → ∀ k, m.accepts k = v.accepts k) ∧
    ((∀ s ∈ l.parts, isPatternText s = false) →
      ∃ m, compile l = .ok m ∧ ∀ k, m.accepts k = true ↔ k = l) ∧
    ((∃ s ∈ l.parts, isPatternText s = true) → ∀ m, compile l = .ok m → ∀ k, m.accepts k = true →
      k.segments.length = l.segments.length ∧ k.isAttribute = l.isAttribute) := by
  refine ⟨fun hpoints => ?_, fun hliteral => ?_, fun _ m hm k => form_of_accepts hm⟩
  · have haccepts : ∀ m, compile l = .ok m → ∀ k, m.accepts k = true ↔
        List.Forall₂ AnchoredPart l.segments k.segments ∧
          Option.Rel AnchoredPart l.attributeName k.attributeName := by
      intro m hm k
      rw [compile_eq_compileBy] at hm
      exact accepts_iff_of_compileBy hm (fun s hs p hp => accepts_iff_anchored (hpoints s hs) hp) k
    refine ⟨haccepts, exists_compilePatterns_iff hpoints, fun m v hm hv k => ?_⟩
    rw [Bool.eq_iff_iff, haccepts m hm k,
      accepts_iff_of_compileBy hv fun s _ p hp => accepts_iff_of_compilePattern hp]
  · exact ⟨ofLiterals l, compile_of_literal hliteral, accepts_ofLiterals_iff hliteral⟩

/-- What is read from `dataset1?`: the number may be missing. -/
def numberedPart : Pattern :=
  .seq (letter 'd') (.seq (letter 'a') (.seq (letter 't') (.seq (letter 'a') (.seq (letter 's')
    (.seq (letter 'e') (.seq (letter 't') (.times (letter '1') 0 (some 1) true)))))))
where
  letter (c : Char) : Pattern := .one (.single c)

lemma whole?_numberedPart : whole? "dataset1?" = some (between numberedPart) := by
  simp [whole?, parse?, anchored, between, numberedPart, numberedPart.letter, maxDepth, skipBlanks,
    Flags.initial, literalSet, Reading.run_plain, Reading.run_nil, Reading.initial, Reading.step,
    Reading.readGroup, Reading.readModes, Reading.repeatMarked, Reading.repeatLast, Reading.enter,
    Reading.leave, Reading.add, Reading.content, Reading.alternatives, Reading.sequence,
    Reading.greatestDepth]

lemma compilable_numberedPart : (between numberedPart).Compilable := by
  simp only [Compilable, between, numberedPart, numberedPart.letter, shape, elements, ofSet_single]
  decide +kernel

/-- A rule for the start time of a dataset. -/
def startTimes : Location :=
  { segments := ["dataset1?", "what"], attributeName := some "start-time & date" }

/-- The start time of the first dataset. -/
def startTime : Location :=
  { segments := ["dataset1", "what"], attributeName := some "start-time & date" }

/-- The attribute `rpm.avg`, or one with a similar name. -/
def rpmAverage (separator : String) : Location :=
  { segments := ["how"], attributeName := some ("rpm" ++ separator ++ "avg") }

theorem accepts_asPatterns_startTimes :
    (∀ s ∈ startTimes.parts, '.' ∉ s.toList) ∧ (∃ s ∈ startTimes.parts, isPatternText s = true) ∧
      (∃ m v, compile startTimes = .ok m ∧ compilePatterns startTimes = .ok v ∧
        (∀ k, m.accepts k = v.accepts k) ∧ m.accepts startTime = true ∧
        startTime.segments.length = startTimes.segments.length ∧
        startTime.isAttribute = startTimes.isAttribute) ∧
      (∀ s ∈ (rpmAverage ".").parts, isPatternText s = false) ∧
      ∃ m, compile (rpmAverage ".") = .ok m ∧ m.accepts (rpmAverage ".") = true ∧
        ¬ m.accepts (rpmAverage "X") = true := by
  have hpoints : ∀ s ∈ startTimes.parts, '.' ∉ s.toList := by decide
  have hpattern : ∃ s ∈ startTimes.parts, isPatternText s = true := by decide
  have hliteral : ∀ s ∈ (rpmAverage ".").parts, isPatternText s = false := by decide
  have hcompiled : compiled? "dataset1?" = some (between numberedPart) :=
    compiled?_iff_whole?.mpr ⟨whole?_numberedPart, compilable_numberedPart⟩
  have hnumbered : AnchoredPart "dataset1?" "dataset1" :=
    (found_iff_anchoredPart whole?_numberedPart _).mp (by decide +kernel)
  have hitself : ∀ s, isPatternText s = false → '.' ∉ s.toList → AnchoredPart s s :=
    fun s hs hpoint => (anchoredPart_iff_of_literal hs hpoint s).mpr rfl
  obtain ⟨m, hm⟩ : ∃ m, compile startTimes = .ok m := by
    have honly : ∀ s ∈ startTimes.parts, isPatternText s = true → s = "dataset1?" := by decide
    rw [WholeText.exists_compileLocation_iff]
    exact fun s hs hpattern => ⟨_, honly s hs hpattern ▸ hcompiled⟩
  obtain ⟨haccepts, hcompiles, hsame⟩ := (accepts_asPatterns startTimes).1 hpoints
  obtain ⟨v, hv⟩ := hcompiles.mpr ⟨⟨m, hm⟩, by decide⟩
  have haccepted : m.accepts startTime = true :=
    (haccepts m hm startTime).mpr
      ⟨.cons hnumbered (.cons (hitself "what" (by decide) (by decide)) .nil),
        .some (hitself "start-time & date" (by decide) (by decide))⟩
  obtain ⟨hlength, hattribute⟩ :=
    (accepts_asPatterns startTimes).2.2 hpattern m hm startTime haccepted
  obtain ⟨m', hm', hself⟩ := (accepts_asPatterns (rpmAverage ".")).2.1 hliteral
  exact ⟨hpoints, hpattern, ⟨m, v, hm, hv, hsame m v hm hv, haccepted, hlength, hattribute⟩,
    hliteral, m', hm', (hself _).mpr rfl, fun h => absurd ((hself _).mp h) (by decide)⟩

/-- Read as a pattern, the point of `rpm.avg` would stand for any character. -/
example : (whole? "rpm.avg").any (·.found "rpmXavg".toList) = true := by decide +kernel

end LocationMatcher

end RadarConform
