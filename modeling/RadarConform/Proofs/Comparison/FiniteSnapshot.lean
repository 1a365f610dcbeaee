import RadarConform.Proofs.Comparison.KindChecked
import RadarConform.Proofs.Snapshot.Numbers

/-!
# Comparisons of snapshots with finite numbers

A sequence with an element that is not finite has no aggregates, and a constraint for it ends the
comparison with an error.  No snapshot brings such an element.

* `Comparison.verdict_error_cases` — why a constraint on a value has no outcome.
* `Comparison.finite_of_parse` — **the comparison of a snapshot never ends at an element that is not
  finite**, whatever the table says.
-/

namespace RadarConform

namespace Comparison

open Grammar

lemma isInvalid_of_parse {text : String} {kind : ValueKind} {cause : ConstraintError}
    (h : Constraint.parse text kind = .error cause) :
    ∃ fragment fault, cause = .invalid fragment fault := by
  rw [Constraint.parse.eq_def] at h
  split at h
  · split at h
    · cases h
    · cases h
      exact ⟨_, _, rfl⟩
  · obtain ⟨fragment, fault, hcause, -⟩ :=
      faultsIn_parse text kind cause (Except.map_eq_error_iff.mp h)
    exact ⟨_, fault, hcause⟩

/-- A constraint on a value has no outcome for one of two reasons: it cannot be read, or the value
is a sequence without aggregates. -/
lemma verdict_error_cases {rule : Rule} {node : Node} {value : AttributeValue}
    {cause : ConstraintError} (h : Naive.verdict rule node value = .error cause) :
    (∃ fragment fault, cause = .invalid fragment fault) ∨
      ∃ a f, value.failure? = some f ∧ cause = .ofFailure a f := by
  cases hparse : Constraint.parse (Text.trimmed rule.constraint) value.kind with
  | ok c =>
      have hsettles : Settles value (Naive.verdict rule node value) := settles_verdict hparse
      rcases hsettles with ⟨o, -, hok⟩ | ⟨a, f, hsome, herror⟩
      · rw [hok] at h
        cases h
      · rw [herror] at h
        cases h
        exact .inr ⟨a, f, hsome, rfl⟩
  | error e =>
      -- Reading comes first wherever the constraint is evaluated.
      have he : Naive.verdict rule node value = .error e := by
        cases value with
        | text s =>
            simp only [AttributeValue.kind] at hparse
            simp only [Naive.verdict, Naive.sourceVerdict, hparse]
            split <;> rfl
        | number x =>
            simp only [Naive.verdict, hparse]
            rfl
        | sequence xs =>
            simp only [Naive.verdict, hparse]
            rfl
      rw [he] at h
      cases h
      exact .inl (isInvalid_of_parse hparse)

/-- No element is blamed where all numbers are finite. -/
lemma failure?_ne_notFinite {value : AttributeValue} (h : ∀ x ∈ value.numbers, x.isFinite = true)
    (i : Nat) (x : Number) : value.failure? ≠ some (.notFinite i x) := by
  intro hsome
  cases value with
  | text | number => cases hsome
  | sequence xs =>
      obtain ⟨before, after, rfl, -, hx, -⟩ :=
        Aggregate.firstNotFinite_eq_some_iff.mp (Aggregate.failure?_eq_notFinite_iff.mp hsome)
      rw [h x (List.mem_append_right before List.mem_cons_self)] at hx
      cases hx

/-- A rule at a node with finite numbers does not fail at an element that is not finite. -/
lemma check_ne_notFinite {rule : Rule} {node : Node}
    (h : ∀ value, node.value = some value → ∀ x ∈ value.numbers, x.isFinite = true)
    (a : Aggregate) (i : Nat) (x : Number) : Naive.check rule node ≠ .error (.notFinite a i x) := by
  intro hcheck
  simp only [Naive.check] at hcheck
  split at hcheck
  · cases hcheck
  · cases hcheck
  · next value _ hvalue =>
      split at hcheck
      · cases hcheck
      · rcases verdict_error_cases (Except.map_eq_error_iff.mp hcheck) with
          ⟨fragment, fault, heq⟩ | ⟨b, f, hsome, heq⟩
        · cases heq
        · cases f with
          | empty => cases heq
          | notFinite j y => exact failure?_ne_notFinite (h value hvalue) j y hsome

/-- **The comparison of a snapshot never ends at an element that is not finite.**  Every number of a
layout that is read from a text is finite, in either format, so no table and no options make the
comparison fail with the error that is about such an element. -/
theorem finite_of_parse {text path : String} {format : SnapshotFormat} {layout : Layout}
    (h : Layout.parse text format path = .ok layout) :
    (∀ node ∈ layout.nodes, ∀ value, node.value = some value →
        ∀ x ∈ value.numbers, x.isFinite = true) ∧
      ∀ (table : RuleTable) (options : CompareOptions) (location : Location) (constraint : String)
        (a : Aggregate) (i : Nat) (x : Number),
        (compare layout table options).outcome
          ≠ .error (.constraint location constraint (.notFinite a i x)) := by
  have hfinite := Layout.finiteNumbers_of_parse h
  refine ⟨hfinite, fun table options location constraint a i x herror => ?_⟩
  rw [outcome_compare_eq_error_iff] at herror
  obtain ⟨rule, -, hrule⟩ := Except.exists_of_mapM_eq_error herror
  rcases error_of_checkRule hrule with ⟨fault, -, heq⟩ | ⟨node, hnode, -, cause, hcheck, heq⟩
  · cases heq
  · cases heq
    exact check_ne_notFinite (hfinite node hnode) a i x hcheck

/-! ## A text with large numbers -/

/-- A snapshot with a list of angles, of which the second is given, and a whole number. -/
def anglesText (angle : String) : String :=
  "/how#elangles: [0.5, " ++ angle ++ "]\n/how#top: 18446744073709551615\n"

/-- A large angle is read and compared; an infinite one is YAML, but no layout. -/
theorem finite_of_parse_anglesText :
    (∃ layout, Layout.parse (anglesText "1e308") .yaml "snap" = .ok layout ∧
        ∀ (table : RuleTable) (location : Location) (a : Aggregate),
          (compare layout table .standard).outcome
            ≠ .error (.constraint location "max < 90" (.notFinite a 1 (.infinity false)))) ∧
      (Yaml.parse (anglesText ".inf")).isSome = true ∧
      (Layout.parse (anglesText ".inf") .yaml "snap").toOption = none := by
  have hsome : (Layout.parse (anglesText "1e308") .yaml "snap").toOption.isSome = true := by
    decide +kernel
  obtain ⟨layout, hlayout⟩ := Option.isSome_iff_exists.mp hsome
  have h := Except.toOption_eq_some_iff.mp hlayout
  refine ⟨⟨layout, h, fun table location a => ?_⟩, by decide +kernel, by decide +kernel⟩
  exact (finite_of_parse h).2 table .standard location _ a 1 _

end Comparison

end RadarConform
