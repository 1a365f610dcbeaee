import RadarConform.Proofs.Comparison.NaiveWalk
import RadarConform.Proofs.Constraint.Evaluation
import RadarConform.Proofs.WholeText

/-!
# Explanations

A value that does not satisfy a constraint is told why, and no other value is told anything.  That
a failing conjunction has something to say is not seen from its own text, which lists the
explanations of operands only: one of them has failed, and that one explains itself.  A failing
disjunction names itself, so it has an explanation even without operands.

* `Outcome.Explained` — an outcome has an explanation exactly if the value does not match.
* `Connective.explained_outcome` — a chain explains itself if its operands do.
* `explained_of_outcome` — **every outcome is explained**, of an expression of any shape, of a
  constraint, of a text and of a source identifier.
-/

namespace RadarConform

/-- The explanation of an outcome is empty exactly if the value satisfies the constraint. -/
def Outcome.Explained (o : Outcome) : Prop := o.matched = true ↔ o.explanation = ""

lemma explained_pass : Outcome.pass.Explained := ⟨fun _ => rfl, fun _ => rfl⟩

lemma explained_fail {explanation : String} (h : explanation ≠ "") :
    (Outcome.fail explanation).Explained := ⟨fun hmatched => absurd hmatched (by simp [Outcome.fail]),
    fun hempty => absurd hempty h⟩

/-- A join is as empty as its parts. -/
lemma joined_ne_empty {separator s : String} {parts : List String} (hs : s ∈ parts)
    (hne : s ≠ "") : Text.joined separator parts ≠ "" := by
  induction parts with
  | nil => cases hs
  | cons t rest ih =>
      cases rest with
      | nil =>
          rw [List.mem_singleton] at hs
          rwa [Text.joined, ← hs]
      | cons u rest =>
          rw [Text.joined, ne_eq, String.append_eq_empty_iff, String.append_eq_empty_iff]
          rintro ⟨⟨ht, -⟩, hrest⟩
          rcases List.mem_cons.mp hs with rfl | hs
          · exact hne ht
          · exact ih hs hrest

/-! ## Expressions -/

lemma Comparison.explained_outcome (c : Comparison) (subject : String) (x : Number) :
    (c.outcome subject x).Explained := by
  rw [Comparison.outcome]
  split
  · exact explained_pass
  · exact explained_fail (by simp)

/-- **Chains.**  Where a conjunction fails an operand has failed, and its explanation is in the
list. -/
lemma Connective.explained_outcome (k : Connective) (chain : String) {os : List Outcome}
    (h : ∀ o ∈ os, o.Explained) : (k.outcome chain os).Explained := by
  cases k with
  | and =>
      simp only [Connective.outcome]
      split
      · exact explained_pass
      · next hall =>
          obtain ⟨o, ho, hfailed⟩ : ∃ o ∈ os, o.matched = false := by simpa using hall
          refine explained_fail (joined_ne_empty (s := o.explanation) ?_ ?_)
          · exact List.mem_map_of_mem (List.mem_filter.mpr ⟨ho, by simp [hfailed]⟩)
          · intro hempty
            rw [(h o ho).mpr hempty] at hfailed
            cases hfailed
  | or =>
      simp only [Connective.outcome]
      split
      · exact explained_pass
      · exact explained_fail (by simp)

/-- **Expressions**, chains of chains and chains without operands among them. -/
lemma Expression.explained_evaluate (e : Expression) {v : AttributeValue} {o : Outcome}
    (h : e.evaluate v = .ok o) : o.Explained := by
  refine outcome_induction ?_ ?_ ?_ e h
  · exact fun c x => c.explained_outcome _ x
  · exact fun _ c x => c.explained_outcome _ x
  · exact fun k _ _ hos => k.explained_outcome _ hos

/-! ## Constraints -/

lemma Constraint.explained_outcome (c : Constraint) {v : AttributeValue} {o : Outcome}
    (h : c.outcome v = .ok o) : o.Explained := by
  rcases source_of_outcome h with ⟨e, he⟩ | rfl | ⟨s, rfl⟩
  · exact e.explained_evaluate he
  · exact explained_pass
  · exact explained_fail (by simp)

lemma explained_evaluateText {info : Bool} {v : AttributeValue} {constraint : String} {o : Outcome}
    (h : (evaluateText info v constraint).outcome = .ok o) : o.Explained := by
  rw [Comparison.outcome_evaluateText] at h
  obtain ⟨c, -, hc⟩ := Except.bind_eq_ok_iff.mp h
  exact c.explained_outcome hc

lemma SourceIdentifier.explained_evaluate {info : Bool} {source constraint : String} {o : Outcome}
    (h : (SourceIdentifier.evaluate info source constraint).outcome = .ok o) : o.Explained := by
  rw [Comparison.outcome_sourceIdentifier_evaluate] at h
  obtain ⟨c, -, h⟩ := Except.bind_eq_ok_iff.mp h
  obtain ⟨p, hp, h⟩ := Except.bind_eq_ok_iff.mp h
  split at h
  · cases h
    exact c.explained_outcome hp
  · split at h
    · cases h
      exact c.explained_outcome hp
    · cases h
      exact explained_fail (by simp)

/-- A source identifier with a token that is not well formed is refused, whatever its pattern. -/
lemma SourceIdentifier.exists_refused (info : Bool) {source constraint : String} {c : Constraint}
    {e : TokenError} (hparse : Constraint.parse constraint .text = .ok c)
    (hcheck : check (normalize source) = .error e) :
    ∃ o, (evaluate info source constraint).outcome = .ok o ∧ o.matched = false := by
  obtain ⟨q, -, rfl⟩ := WholeText.parse_eq_ok_iff.mp hparse
  obtain ⟨o, ho, -⟩ := WholeText.outcome_eq constraint (normalize source) q
  rw [Comparison.outcome_sourceIdentifier_evaluate, Comparison.Naive.sourceVerdict, hparse]
  simp only [Except.ok_bind, ho, hcheck]
  cases hmatched : o.matched with
  | true => exact ⟨_, rfl, rfl⟩
  | false => exact ⟨o, rfl, hmatched⟩

/-- **Every outcome is explained.**  Whatever the expression, nested or without operands, and
whatever the value, text and constraint: where there is an outcome its explanation is empty exactly
if the value matches. -/
theorem explained_of_outcome :
    (∀ (e : Expression) (v : AttributeValue) (o : Outcome), e.evaluate v = .ok o → o.Explained) ∧
      (∀ (info : Bool) (v : AttributeValue) (constraint : String) (o : Outcome),
        (evaluateText info v constraint).outcome = .ok o → o.Explained) ∧
      (∀ (c : Constraint) (info : Bool) (v : AttributeValue) (o : Outcome),
        (c.evaluate info v).outcome = .ok o → o.Explained) ∧
      ∀ (info : Bool) (source constraint : String) (o : Outcome),
        (SourceIdentifier.evaluate info source constraint).outcome = .ok o → o.Explained := by
  refine ⟨fun e v o => e.explained_evaluate, fun info v constraint o => explained_evaluateText,
    fun c info v o h => ?_, fun info source constraint o => SourceIdentifier.explained_evaluate⟩
  rw [Comparison.outcome_constraint_evaluate] at h
  exact c.explained_outcome h

/-- A conjunction in which a disjunction without operands and a conjunction without operands stand. -/
def nestedChain : Expression :=
  .chain .and [.comparison ⟨.less, .zero, none⟩, .chain .or [], .chain .and []]

/-- The two operands that fail are named and the empty conjunction is not; a text that holds is told
nothing; a source identifier with a token that is not well formed is told so. -/
theorem explained_of_outcome_nestedChain :
    (∃ o, nestedChain.evaluate (.number .zero) = .ok o ∧ o.matched = false ∧
        o.explanation ≠ "") ∧
      (∃ o, (evaluateText true (.number .zero) ">=0||<0").outcome = .ok o ∧ o.matched = true ∧
        o.explanation = "") ∧
      (∃ o, (Constraint.evaluate ⟨"nested", .number, .expression nestedChain⟩ true
          (.number .zero)).outcome = .ok o ∧ o.matched = false ∧ o.explanation ≠ "") ∧
      ∃ o, (SourceIdentifier.evaluate true "a" "a)|(?:b").outcome = .ok o ∧ o.matched = false ∧
        o.explanation ≠ "" := by
  obtain ⟨hexpression, htext, hconstraint, hsource⟩ := explained_of_outcome
  have hnested : nestedChain.evaluate (.number .zero) = .ok
      (.fail "value 0 does not satisfy <0; no alternative of  holds: ") := by decide +kernel
  have hholds : (evaluateText true (.number .zero) ">=0||<0").outcome = .ok .pass := by
    decide +kernel
  have hbody : (Constraint.evaluate ⟨"nested", .number, .expression nestedChain⟩ true
      (.number .zero)).outcome = .ok
        (.fail "value 0 does not satisfy <0; no alternative of  holds: ") := by decide +kernel
  have hreentering : Constraint.parse "a)|(?:b" .text =
      .ok ⟨"a)|(?:b", .text, .pattern WholeText.reentering⟩ := by
    refine WholeText.parse_eq_ok_iff.mpr ⟨WholeText.reentering, ?_, rfl⟩
    rw [Pattern.compiled?, WholeText.whole?_reentering, Option.filter_eq_some_iff]
    exact ⟨rfl, by simp [WholeText.compilable_reentering]⟩
  have hnoColon : SourceIdentifier.check (SourceIdentifier.normalize "a") =
      .error ⟨"a", .noColon⟩ := by decide +kernel
  obtain ⟨refused, hrefused, hfails⟩ :=
    SourceIdentifier.exists_refused true hreentering hnoColon
  refine ⟨⟨_, hnested, rfl, fun h => ?_⟩, ⟨_, hholds, rfl, ?_⟩, ⟨_, hbody, rfl, fun h => ?_⟩,
    ⟨refused, hrefused, hfails, fun h => ?_⟩⟩
  · cases (hexpression _ _ _ hnested).mpr h
  · exact (htext _ _ _ _ hholds).mp rfl
  · cases (hconstraint _ _ _ _ hbody).mpr h
  · rw [(hsource _ _ _ _ hrefused).mpr h] at hfails
    cases hfails

end RadarConform
