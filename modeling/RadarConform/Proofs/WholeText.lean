import RadarConform.Constraint.Evaluation
import RadarConform.Proofs.Comparison.Matching
import RadarConform.Proofs.Pattern.Anchoring

/-!
# Patterns for whole texts

Constraints on texts and parts of locations are meant to be patterns that a text has to match as a
whole.

* `Constraint.ForWholeTexts` — what that means of the constraint of a text: it is read exactly when
  the text is a pattern, and it holds of the texts that the pattern spans as a whole.
* `Location.ForWholeParts` — the same of the parts of a location.
* `whole_iff_confined` — **both are so exactly for the texts that are confined** to the group in
  which they are put (`Pattern.Confined`).
* `not_forWholeTexts_reentering` — a text that is not: it is no pattern, but is read as one.
-/

namespace RadarConform

open Pattern

/-! ## Constraints -/

/-- The constraint of a text is read exactly when the text is a pattern, and then holds of the texts
that the pattern spans as a whole. -/
def Constraint.ForWholeTexts (text : String) : Prop :=
  ((∃ c, Constraint.parse text .text = .ok c) ↔ ∃ p, parse? text.toList = some p) ∧
    ∀ c p, Constraint.parse text .text = .ok c → parse? text.toList = some p →
      ∀ s, ∃ o, c.outcome (.text s) = .ok o ∧ (o.matched = true ↔ p.Fits s.toList)

namespace WholeText

lemma parse_eq_ok_iff {text : String} {c : Constraint} :
    Constraint.parse text .text = .ok c ↔
      ∃ q, compiled? text = some q ∧ c = { text, kind := .text, body := .pattern q } := by
  simp only [Constraint.parse]
  cases compiled? text with
  | none => simp
  | some q => simp [eq_comm]

lemma exists_parse_iff {text : String} :
    (∃ c, Constraint.parse text .text = .ok c) ↔ ∃ q, compiled? text = some q := by
  simp only [parse_eq_ok_iff]
  constructor
  · rintro ⟨c, q, hq, -⟩
    exact ⟨q, hq⟩
  · rintro ⟨q, hq⟩
    exact ⟨_, q, hq, rfl⟩

/-- Whatever is read from a text that is a pattern holds of whole texts. -/
lemma found_iff_fits {text s : String} {p q : Pattern} (hp : parse? text.toList = some p)
    (hq : compiled? text = some q) : q.found s.toList = true ↔ p.Fits s.toList := by
  obtain ⟨item, hitem, -, rfl⟩ := parse?_eq_some_iff.mp hp
  rw [compiled?_eq_between hp hq]
  exact found_between_iff (ordered_of_item? hitem)

lemma outcome_eq (text s : String) (q : Pattern) :
    ∃ o, Constraint.outcome { text, kind := .text, body := .pattern q } (.text s) = .ok o ∧
      o.matched = q.found s.toList := by
  simp only [Constraint.outcome, AttributeValue.kind, ne_eq, not_true_eq_false, if_false]
  cases q.found s.toList with
  | true => exact ⟨_, rfl, rfl⟩
  | false => exact ⟨_, rfl, rfl⟩

theorem forWholeTexts_iff (text : String) :
    Constraint.ForWholeTexts text ↔ Confined text.toList := by
  rw [Constraint.ForWholeTexts, exists_parse_iff, confined_iff, and_iff_left_iff_imp]
  intro _ c p hc hp s
  obtain ⟨q, hq, rfl⟩ := parse_eq_ok_iff.mp hc
  obtain ⟨o, ho, hmatched⟩ := outcome_eq text s q
  exact ⟨o, ho, by rw [hmatched, found_iff_fits hp hq]⟩

end WholeText

/-! ## Locations -/

/-- What a part of a location describes: texts that it spans as a whole if it is written as a
pattern, and otherwise itself. -/
def DescribesPart (s t : String) : Prop :=
  if SegmentMatcher.isPatternText s = true then
    ∃ p, parse? s.toList = some p ∧ p.Fits t.toList
  else s = t

/-- A location is compiled exactly when its parts are patterns that are written as such, and then
describes the locations whose parts are described one by one. -/
def Location.ForWholeParts (l : Location) : Prop :=
  ((∃ m, LocationMatcher.compile l = .ok m) ↔
      ∀ s ∈ l.parts, SegmentMatcher.isPatternText s = true → ∃ p, parse? s.toList = some p) ∧
    ∀ m, LocationMatcher.compile l = .ok m → ∀ l', m.accepts l' = true ↔
      List.Forall₂ DescribesPart l.segments l'.segments ∧
        Option.Rel DescribesPart l.attributeName l'.attributeName

namespace WholeText

variable {l : Location}

/-- A part that is confined if it is written as a pattern. -/
def ConfinedPart (s : String) : Prop :=
  SegmentMatcher.isPatternText s = true → Confined s.toList

lemma exists_compile_iff (s : String) : (∃ m, SegmentMatcher.compile l s = .ok m) ↔
    (SegmentMatcher.isPatternText s = true → ∃ q, compiled? s = some q) := by
  unfold SegmentMatcher.compile
  split
  · next hs =>
      cases compiled? s with
      | none => simp [hs]
      | some q => simp
  · next hs => simp [hs]

/-- A part that is compiled describes what it should. -/
lemma accepts_iff {s : String} (hs : ConfinedPart s) {m : SegmentMatcher}
    (h : SegmentMatcher.compile l s = .ok m) (t : String) :
    m.accepts t = true ↔ DescribesPart s t := by
  unfold SegmentMatcher.compile at h
  unfold DescribesPart
  split at h
  · next hpattern =>
      rw [if_pos hpattern]
      cases hq : compiled? s with
      | none =>
          rw [hq] at h
          cases h
      | some q =>
          rw [hq] at h
          cases h
          obtain ⟨p, hp⟩ := ((confined_iff s).mp (hs hpattern)).mp ⟨q, hq⟩
          simp only [SegmentMatcher.accepts, found_iff_fits hp hq, hp, Option.some.injEq,
            exists_eq_left']
  · next hliteral =>
      cases h
      rw [if_neg hliteral]
      exact beq_iff_eq

lemma exists_compileLocation_iff : (∃ m, LocationMatcher.compile l = .ok m) ↔
    ∀ s ∈ l.parts, SegmentMatcher.isPatternText s = true → ∃ q, compiled? s = some q := by
  simp only [LocationMatcher.compile_eq_compileBy, LocationMatcher.exists_compileBy_iff,
    exists_compile_iff]

/-- **A location** whose patterns are confined describes whole parts. -/
theorem forWholeParts_of_confined (h : ∀ s ∈ l.parts, ConfinedPart s) : l.ForWholeParts := by
  constructor
  · rw [exists_compileLocation_iff]
    constructor
    · intro hq s hs hpattern
      exact ((confined_iff s).mp (h s hs hpattern)).mp (hq s hs hpattern)
    · intro hp s hs hpattern
      exact ((confined_iff s).mp (h s hs hpattern)).mpr (hp s hs hpattern)
  · intro m hm l'
    rw [LocationMatcher.compile_eq_compileBy] at hm
    exact LocationMatcher.accepts_iff_of_compileBy hm (fun s hs p hp => accepts_iff (h s hs) hp) l'

/-- A location of one segment shows whether the segment is confined. -/
lemma confined_of_forWholeParts {s : String} (hs : SegmentMatcher.isPatternText s = true)
    (h : Location.ForWholeParts { segments := [s], attributeName := none }) :
    Confined s.toList := by
  rw [confined_iff]
  have haccepts := h.1
  rw [exists_compileLocation_iff] at haccepts
  simpa [Location.parts, hs] using haccepts

/-! ## Whole texts -/

/-- **Patterns for whole texts.**  The constraint of a text is one for whole texts exactly when the
text is confined; and so is every location in which the text is the only pattern. -/
theorem whole_iff_confined (text : String) :
    (Constraint.ForWholeTexts text ↔ Confined text.toList) ∧
      ((SegmentMatcher.isPatternText text = true → ∀ l : Location, text ∈ l.parts →
          (∀ s ∈ l.parts, SegmentMatcher.isPatternText s = true → s = text) → l.ForWholeParts) ↔
        (SegmentMatcher.isPatternText text = true → Confined text.toList)) := by
  refine ⟨forWholeTexts_iff text, ?_, ?_⟩
  · intro h htext
    refine confined_of_forWholeParts htext (h htext _ ?_ ?_)
    · simp [Location.parts]
    · simp [Location.parts]
  · intro h htext l _ honly
    refine forWholeParts_of_confined fun s hs hpattern => ?_
    rw [honly s hs hpattern]
    exact h htext

/-- What is read from `a)|(?:b` between the anchors: an `a` at the start or a `b` at the end. -/
def reentering : Pattern :=
  .alt (.seq (.look .textStart) (.group none (.one (literalSet .initial 'a'))))
    (.seq (.group none (.one (literalSet .initial 'b'))) (.look .textEnd))

lemma whole?_reentering : whole? "a)|(?:b" = some reentering := by
  simp [whole?, parse?, anchored, reentering, maxDepth, skipBlanks, Flags.initial,
    Pattern.Reading.run_plain, Pattern.Reading.run_nil, Pattern.Reading.initial,
    Pattern.Reading.step, Pattern.Reading.readGroup, Pattern.Reading.readModes,
    Pattern.Reading.enter, Pattern.Reading.leave, Pattern.Reading.add, Pattern.Reading.content,
    Pattern.Reading.alternatives, Pattern.Reading.sequence, Pattern.Reading.greatestDepth]

lemma shape_reentering : reentering.shape =
    .alt [.seq [.look .textStart, .literal [97]], .seq [.literal [98], .look .textEnd]] := by
  have ha : Shape.ofSet (literalSet .initial 'a') = .literal [97] := rfl
  have hb : Shape.ofSet (literalSet .initial 'b') = .literal [98] := rfl
  simp [reentering, shape, elements, branches, ha, hb]
  rfl

lemma compilable_reentering : reentering.Compilable := by
  rw [Compilable, shape_reentering]
  decide +kernel

lemma compiled?_reentering : compiled? "a)|(?:b" = some reentering :=
  compiled?_iff_whole?.mpr ⟨whole?_reentering, compilable_reentering⟩

lemma parse?_reentering : parse? "a)|(?:b".toList = none :=
  Option.isNone_iff_eq_none.mp (by decide +kernel)

/-- The text `a)|(?:b` is no pattern, and yet a constraint. -/
theorem not_forWholeTexts_reentering : ¬ Constraint.ForWholeTexts "a)|(?:b" := by
  intro h
  have hcompiled : compiled? "a)|(?:b" = some reentering := by
    rw [compiled?, whole?_reentering, Option.filter_eq_some_iff]
    exact ⟨rfl, by simp [compilable_reentering]⟩
  obtain ⟨p, hp⟩ := h.1.mp (exists_parse_iff.mpr ⟨reentering, hcompiled⟩)
  have hnone : (parse? "a)|(?:b".toList).isNone = true := by decide +kernel
  rw [hp] at hnone
  cases hnone

end WholeText

end RadarConform
