import Mathlib.Data.List.Forall2
import RadarConform.Comparison.Matcher
import RadarConform.Proofs.Computation

/-!
# Locations part by part

A location is compiled part by part and described part by part, and neither looks at more than one
part at a time.  So what is known of single parts, of either reading, holds of locations.

* `Location.parts` — the segments and the attribute name.
* `compileBy` — a location compiled with any reader of parts; `compile` is one of these.
* `compileBy_eq_ok_iff`, `exists_compileBy_iff` — it compiles when every part does.
* `accepts_iff_of_compileBy` — **what a matcher accepts**, from what its parts accept.
* `form_of_accepts` — described locations have equally many segments and an attribute or none.
-/

namespace RadarConform

/-- The segments and the attribute name of a location. -/
def Location.parts (l : Location) : List String := l.segments ++ l.attributeName.toList

namespace LocationMatcher

variable {l k : Location} {m : LocationMatcher}

/-! ## Compiling -/

/-- Compiles the parts of a location: the segments first, then the attribute name. -/
def compileBy (part : String → Except SegmentFault SegmentMatcher) (location : Location) :
    Except SegmentFault LocationMatcher := do
  let segments ← location.segments.mapM part
  let attributeName ← location.attributeName.mapM part
  return { location, segments, attributeName }

lemma compileAll_eq_mapM (l : Location) (ss : List String) :
    compileAll l ss = ss.mapM (SegmentMatcher.compile l) := by
  induction ss with
  | nil => rfl
  | cons s ss ih =>
      rw [List.mapM_cons, ← ih]
      rfl

lemma compileName_eq_mapM (l : Location) (name : Option String) :
    compileName l name = name.mapM (SegmentMatcher.compile l) := by
  cases name <;> rfl

/-- The reader of parts that a rule's location is compiled with. -/
lemma compile_eq_compileBy (l : Location) : compile l = compileBy (SegmentMatcher.compile l) l := by
  rw [compile, compileAll_eq_mapM, compileName_eq_mapM]
  rfl

/-- **A location compiles** to a matcher of the results for its parts. -/
lemma compileBy_eq_ok_iff {part : String → Except SegmentFault SegmentMatcher} :
    compileBy part l = .ok m ↔
      m.location = l ∧ List.Forall₂ (fun s p => part s = .ok p) l.segments m.segments ∧
        Option.Rel (fun s p => part s = .ok p) l.attributeName m.attributeName := by
  simp only [compileBy, Except.bind_eq_ok_iff, Except.mapM_eq_ok_iff, Except.option_mapM_eq_ok_iff]
  constructor
  · rintro ⟨segments, hsegments, name, hname, heq⟩
    cases heq
    exact ⟨rfl, hsegments, hname⟩
  · rintro ⟨rfl, hsegments, hname⟩
    exact ⟨m.segments, hsegments, m.attributeName, hname, rfl⟩

lemma compile_eq_ok_iff : compile l = .ok m ↔
    m.location = l ∧
      List.Forall₂ (fun s p => SegmentMatcher.compile l s = .ok p) l.segments m.segments ∧
      Option.Rel (fun s p => SegmentMatcher.compile l s = .ok p) l.attributeName
        m.attributeName := by
  rw [compile_eq_compileBy, compileBy_eq_ok_iff]

/-- Something is related to every member of a list exactly when a list is related to it. -/
lemma exists_forall₂_iff {α β : Type} {R : α → β → Prop} {xs : List α} :
    (∃ ys, List.Forall₂ R xs ys) ↔ ∀ x ∈ xs, ∃ y, R x y := by
  induction xs with
  | nil => simp
  | cons x xs ih =>
      rw [List.forall_mem_cons, ← ih]
      constructor
      · rintro ⟨ys, h⟩
        cases h with
        | cons hy hys => exact ⟨⟨_, hy⟩, ⟨_, hys⟩⟩
      · rintro ⟨⟨y, hy⟩, ⟨ys, hys⟩⟩
        exact ⟨y :: ys, .cons hy hys⟩

lemma exists_rel_iff {α β : Type} {R : α → β → Prop} {a : Option α} :
    (∃ b, Option.Rel R a b) ↔ ∀ x ∈ a.toList, ∃ y, R x y := by
  cases a with
  | none => exact ⟨fun _ => by simp, fun _ => ⟨none, .none⟩⟩
  | some x =>
      simp only [Option.toList_some, List.mem_singleton, forall_eq]
      constructor
      · rintro ⟨b, hb⟩
        cases hb with
        | some hb => exact ⟨_, hb⟩
      · rintro ⟨b, hb⟩
        exact ⟨some b, .some hb⟩

/-- A location compiles exactly when each of its parts does. -/
lemma exists_compileBy_iff {part : String → Except SegmentFault SegmentMatcher} :
    (∃ m, compileBy part l = .ok m) ↔ ∀ s ∈ l.parts, ∃ p, part s = .ok p := by
  simp only [compileBy_eq_ok_iff]
  rw [Location.parts, List.forall_mem_append,
    ← exists_forall₂_iff (R := fun s p => part s = .ok p),
    ← exists_rel_iff (R := fun s p => part s = .ok p)]
  constructor
  · rintro ⟨m, -, hms, hm⟩
    exact ⟨⟨_, hms⟩, ⟨_, hm⟩⟩
  · rintro ⟨⟨ms, hms⟩, ⟨p, hp⟩⟩
    exact ⟨⟨l, ms, p⟩, rfl, hms, hp⟩

/-! ## Describing -/

/-- Segments are described when their number is that of the matchers and each is accepted. -/
lemma acceptsAll_eq_true_iff {ms : List SegmentMatcher} {ss : List String} :
    acceptsAll ms ss = true ↔ List.Forall₂ (fun m s => m.accepts s = true) ms ss := by
  induction ms generalizing ss with
  | nil => cases ss <;> simp [acceptsAll]
  | cons m ms ih => cases ss <;> simp [acceptsAll, ih]

section Parts

variable {C : String → SegmentMatcher → Prop} {R : String → String → Prop}

lemma acceptsAll_iff {ss : List String} {ms : List SegmentMatcher} (h : List.Forall₂ C ss ms)
    (hparts : ∀ s ∈ ss, ∀ p, C s p → ∀ t, p.accepts t = true ↔ R s t) (ts : List String) :
    acceptsAll ms ts = true ↔ List.Forall₂ R ss ts := by
  induction h generalizing ts with
  | nil =>
      cases ts with
      | nil => simp [acceptsAll]
      | cons t ts => simp [acceptsAll]
  | @cons s p ss ms hp _ ih =>
      rw [List.forall_mem_cons] at hparts
      cases ts with
      | nil => simp [acceptsAll]
      | cons t ts =>
          simp only [acceptsAll, Bool.and_eq_true, List.forall₂_cons]
          exact and_congr (hparts.1 p hp t) (ih hparts.2 ts)

lemma acceptsName_iff {name : Option String} {p : Option SegmentMatcher} (h : Option.Rel C name p)
    (hparts : ∀ s ∈ name.toList, ∀ p, C s p → ∀ t, p.accepts t = true ↔ R s t)
    (t : Option String) : acceptsName p t = true ↔ Option.Rel R name t := by
  cases h with
  | none =>
      cases t with
      | none => simp [acceptsName]
      | some t => simp [acceptsName]
  | @some s p hp =>
      cases t with
      | none => simp [acceptsName]
      | some t =>
          simp only [acceptsName, Option.rel_some_some]
          exact hparts s (by simp) p hp t

end Parts

/-- **What a matcher accepts**, if each of its parts accepts what it should: the locations that have
parts in the same places and are described part by part. -/
lemma accepts_iff_of_compileBy {part : String → Except SegmentFault SegmentMatcher}
    {R : String → String → Prop} (hm : compileBy part l = .ok m)
    (hparts : ∀ s ∈ l.parts, ∀ p, part s = .ok p → ∀ t, p.accepts t = true ↔ R s t)
    (k : Location) :
    m.accepts k = true ↔ List.Forall₂ R l.segments k.segments ∧
      Option.Rel R l.attributeName k.attributeName := by
  obtain ⟨-, hsegments, hname⟩ := compileBy_eq_ok_iff.mp hm
  rw [Location.parts, List.forall_mem_append] at hparts
  rw [accepts, Bool.and_eq_true, and_comm]
  exact and_congr (acceptsAll_iff hsegments hparts.1 _) (acceptsName_iff hname hparts.2 _)

/-! ## The form of what is described -/

lemma isSome_of_acceptsName {m : Option SegmentMatcher} {name : Option String}
    (h : acceptsName m name = true) : name.isSome = m.isSome := by
  cases m <;> cases name <;> simp_all [acceptsName]

/-- A matcher accepts attributes if its location is that of one, and otherwise none. -/
lemma isAttribute_of_accepts (hm : compile l = .ok m) (h : m.accepts k = true) :
    k.isAttribute = l.isAttribute := by
  obtain ⟨-, -, hname⟩ := compile_eq_ok_iff.mp hm
  rw [accepts, Bool.and_eq_true] at h
  rw [Location.isAttribute, Location.isAttribute, isSome_of_acceptsName h.1]
  generalize l.attributeName = name, m.attributeName = matcher at hname ⊢
  cases hname with
  | none => rfl
  | some => rfl

/-- **The form of what is described**: as many segments, and an attribute or none. -/
lemma form_of_accepts (hm : compile l = .ok m) (h : m.accepts k = true) :
    k.segments.length = l.segments.length ∧ k.isAttribute = l.isAttribute := by
  refine ⟨?_, isAttribute_of_accepts hm h⟩
  obtain ⟨-, hsegments, -⟩ := compile_eq_ok_iff.mp hm
  rw [accepts, Bool.and_eq_true, acceptsAll_eq_true_iff] at h
  rw [← h.2.length_eq, hsegments.length_eq]

end LocationMatcher

end RadarConform
