import RadarConform.Constraint.Evaluation
import RadarConform.Proofs.Computation

/-!
# Evaluating expressions

An expression is evaluated clause by clause, and a chain puts the outcomes of its operands together.

* `Connective.combine` — what a connective makes of the answers of its operands.
* `Comparison.matched_outcome`, `Connective.matched_outcome` — **an outcome gives the answer of the
  comparison, or what the connective makes of the answers**.
* `Expression.nestedInduction` — induction on an expression that reaches the operands of its chains.
* `Expression.evaluate_chain_eq_ok_iff` — a chain has an outcome exactly when all its operands have
  one, and then it is the outcome of its connective on theirs.
* `Expression.outcome_induction` — **what comparisons and connectives keep holds of every outcome**
  of an expression.
* `Constraint.source_of_outcome` — a constraint has the outcome of its expression or its pattern.
-/

namespace RadarConform

/-! ## Answers -/

@[simp] lemma Comparison.matched_outcome (c : Comparison) (subject : String) (x : Number) :
    (c.outcome subject x).matched = c.holds x := by
  rw [Comparison.outcome]
  cases c.holds x with
  | true => rfl
  | false => rfl

namespace Connective

/-- What a connective makes of the answers of its operands. -/
def combine : Connective → List Bool → Bool
  | and, answers => answers.all id
  | or, answers => answers.any id

/-- One operand answers for itself. -/
lemma combine_singleton (k : Connective) (answer : Bool) : k.combine [answer] = answer := by
  cases k with
  | and => simp [combine]
  | or => simp [combine]

lemma matched_outcome (k : Connective) (chain : String) (os : List Outcome) :
    (k.outcome chain os).matched = k.combine (os.map (·.matched)) := by
  cases k with
  | and =>
      have hall : combine and (os.map (·.matched)) = os.all (·.matched) := by
        simp [combine, List.all_map]
      rw [hall, Connective.outcome]
      cases os.all (·.matched) with
      | true => rfl
      | false => rfl
  | or =>
      have hany : combine or (os.map (·.matched)) = os.any (·.matched) := by
        simp [combine, List.any_map]
      rw [hany, Connective.outcome]
      cases os.any (·.matched) with
      | true => rfl
      | false => rfl

end Connective

namespace Expression

/-! ## Chains -/

/-- Induction on an expression; what is to be shown of a chain may be assumed of its operands. -/
@[elab_as_elim]
theorem nestedInduction {P : Expression → Prop} (comparison : ∀ c, P (.comparison c))
    (aggregate : ∀ a c, P (.aggregate a c))
    (chain : ∀ k operands, (∀ e ∈ operands, P e) → P (.chain k operands)) : ∀ e, P e
  | .comparison c => comparison c
  | .aggregate a c => aggregate a c
  | .chain k operands => chain k operands fun e _ => nestedInduction comparison aggregate chain e
termination_by e => e
decreasing_by
  have hoperand := List.sizeOf_lt_of_mem ‹e ∈ operands›
  simp only [Expression.chain.sizeOf_spec]
  omega

/-- Operands are evaluated from left to right, up to the first error. -/
lemma evaluateAll_eq_mapM (operands : List Expression) (v : AttributeValue) :
    evaluateAll operands v = operands.mapM (·.evaluate v) := by
  induction operands with
  | nil => rfl
  | cons e rest ih => rw [evaluateAll, ih, List.mapM_cons]

/-- **A chain has an outcome exactly when all its operands have one.** -/
lemma evaluate_chain_eq_ok_iff {k : Connective} {operands : List Expression} {v : AttributeValue}
    {o : Outcome} : (chain k operands).evaluate v = .ok o ↔
      ∃ os, List.Forall₂ (fun e o => e.evaluate v = .ok o) operands os ∧
        k.outcome (chain k operands).text os = o := by
  rw [evaluate, evaluateAll_eq_mapM, Except.map_eq_ok_iff]
  simp only [Except.mapM_eq_ok_iff]

/-! ## Outcomes -/

lemma evaluate_comparison_eq_ok_iff {c : Comparison} {v : AttributeValue} {o : Outcome} :
    (comparison c).evaluate v = .ok o ↔ ∃ x, v = .number x ∧ c.outcome "value" x = o := by
  rw [evaluate.eq_def]
  cases v with
  | number x => simp
  | text | sequence => simp

lemma evaluate_aggregate_eq_ok_iff {a : Aggregate} {c : Comparison} {v : AttributeValue}
    {o : Outcome} : (aggregate a c).evaluate v = .ok o ↔
      ∃ xs x, v = .sequence xs ∧ a.apply xs = .ok x ∧ c.outcome a.name x = o := by
  rw [evaluate.eq_def]
  cases v with
  | sequence xs =>
      cases happly : a.apply xs with
      | ok x => simp [happly]
      | error f => simp [happly]
  | text | number => simp

/-- **Every outcome of an expression** is made by comparisons, and by connectives from outcomes. -/
lemma outcome_induction {P : Outcome → Prop} (number : ∀ c x, P (Comparison.outcome c "value" x))
    (sequence : ∀ (a : Aggregate) c x, P (Comparison.outcome c a.name x))
    (operands : ∀ k es os, (∀ o ∈ os, P o) → P (Connective.outcome k (chain k es).text os))
    (e : Expression) {v : AttributeValue} {o : Outcome} (h : e.evaluate v = .ok o) : P o := by
  induction e using nestedInduction generalizing o with
  | comparison c =>
      obtain ⟨x, -, rfl⟩ := evaluate_comparison_eq_ok_iff.mp h
      exact number c x
  | aggregate a c =>
      obtain ⟨_, x, -, -, rfl⟩ := evaluate_aggregate_eq_ok_iff.mp h
      exact sequence a c x
  | chain k es ih =>
      obtain ⟨os, hos, rfl⟩ := evaluate_chain_eq_ok_iff.mp h
      refine operands k es os fun o ho => ?_
      obtain ⟨e, he, heval⟩ := exists_of_forall₂ hos.flip ho
      exact ih e he heval

end Expression

/-- The outcome of a constraint is that of its expression, or tells whether its pattern is found. -/
lemma Constraint.source_of_outcome {c : Constraint} {v : AttributeValue} {o : Outcome}
    (h : c.outcome v = .ok o) : (∃ e : Expression, e.evaluate v = .ok o) ∨ o = .pass ∨
      ∃ s, o = .fail ("actual value " ++ Text.quoted s ++ " does not match expected "
        ++ Text.quoted c.text) := by
  simp only [Constraint.outcome] at h
  split at h
  · cases h
  · split at h
    · split at h
      · cases h
        exact .inr (.inl rfl)
      · cases h
        exact .inr (.inr ⟨_, rfl⟩)
    · cases h
    · exact .inl ⟨_, h⟩

end RadarConform
