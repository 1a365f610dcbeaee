import RadarConform.Proofs.Comparison.Run
import RadarConform.Proofs.Constraint.Evaluation
import RadarConform.Proofs.Number.Numeral
import RadarConform.Proofs.Number.RoundTrip
import RadarConform.Proofs.Text.SingleLine

/-!
# Explanations on one line

An explanation is put together from numbers, from clauses in their canonical text and from texts of
the layout and of the table.  The numbers and clauses have no line feed in them, and the texts are
quoted.

* `Outcome.SingleLine` — an outcome whose explanation stands on one line.
* `Number.singleLine_text`, `Expression.singleLine_text` — what is written as it is.
* `Comparison.singleLine_of_check` — **every explanation stands on one line**, whatever the texts of
  the layout and of the table hold.
-/

namespace RadarConform

open Text (SingleLine)

/-! ## Numbers and clauses -/

/-- **The text of a number**, the infinite ones and `NaN` among them. -/
lemma Number.singleLine_text (x : Number) : SingleLine x.text := by
  cases hfinite : x.isFinite with
  | true =>
      intro hmem
      have hchar := (numeral_chars (ofText?_text hfinite) hfinite).2.1 _ hmem
      revert hchar
      decide
  | false =>
      cases x with
      | nan => decide
      | signed negative rank bounded =>
          have hrank : rank = infinityRank := by
            have hnot : ¬ rank < infinityRank := of_decide_eq_false hfinite
            omega
          rw [text, if_pos hrank]
          cases negative with
          | true | false => decide

lemma Comparison.singleLine_text (c : Comparison) : SingleLine c.text := by
  have hmark : SingleLine c.comparator.mark := by
    cases c.comparator with
    | equal | atLeast | atMost | greater | less => decide
  refine (hmark.append c.threshold.singleLine_text).append ?_
  cases c.tolerance with
  | none => decide
  | some tolerance => exact SingleLine.append (by decide) tolerance.singleLine_text

lemma Aggregate.singleLine_name (a : Aggregate) : SingleLine a.name := by
  cases a with
  | min | max | mean | first | last => decide

lemma Expression.singleLine_chainText {mark : String} (hmark : SingleLine mark)
    {operands : List Expression} (h : ∀ e ∈ operands, SingleLine e.text) :
    SingleLine (chainText mark operands) := by
  induction operands with
  | nil => exact Text.singleLine_empty
  | cons e rest ih =>
      obtain ⟨he, hrest⟩ := List.forall_mem_cons.mp h
      cases rest with
      | nil => exact he
      | cons d rest => exact (he.append hmark).append (ih hrest)

/-- **The canonical text of an expression.** -/
lemma Expression.singleLine_text (e : Expression) : SingleLine e.text := by
  induction e using nestedInduction with
  | comparison c => exact c.singleLine_text
  | aggregate a c => exact a.singleLine_name.append c.singleLine_text
  | chain k operands ih =>
      refine singleLine_chainText ?_ ih
      cases k with
      | and | or => decide

/-! ## Outcomes -/

/-- An outcome whose explanation stands on one line. -/
def Outcome.SingleLine (o : Outcome) : Prop := Text.SingleLine o.explanation

lemma singleLine_pass : Outcome.pass.SingleLine := Text.singleLine_empty

lemma Comparison.singleLine_outcome (c : Comparison) {subject : String} (h : SingleLine subject)
    (x : Number) : (c.outcome subject x).SingleLine := by
  rw [Comparison.outcome]
  split
  · exact singleLine_pass
  · exact (((h.append (by decide)).append x.singleLine_text).append (by decide)).append
      c.singleLine_text

/-- A chain explains itself with its own text and the explanations of its operands. -/
lemma Connective.singleLine_outcome (k : Connective) {chain : String} (hchain : SingleLine chain)
    {os : List Outcome} (h : ∀ o ∈ os, o.SingleLine) : (k.outcome chain os).SingleLine := by
  have hreasons : SingleLine
      (Text.joined "; " ((os.filter (!·.matched)).map (·.explanation))) := by
    refine Text.singleLine_joined (by decide) (List.forall_mem_map.mpr fun o ho => ?_)
    exact h o (List.mem_of_mem_filter ho)
  cases k with
  | and =>
      simp only [Connective.outcome]
      split
      · exact singleLine_pass
      · exact hreasons
  | or =>
      simp only [Connective.outcome]
      split
      · exact singleLine_pass
      · exact ((SingleLine.append (by decide) hchain).append (by decide)).append hreasons

lemma Expression.singleLine_evaluate (e : Expression) {v : AttributeValue} {o : Outcome}
    (h : e.evaluate v = .ok o) : o.SingleLine := by
  refine outcome_induction ?_ ?_ ?_ e h
  · exact fun c x => c.singleLine_outcome (by decide) x
  · exact fun a c x => c.singleLine_outcome a.singleLine_name x
  · exact fun k _ _ hos => k.singleLine_outcome (singleLine_text _) hos

lemma Constraint.singleLine_outcome (c : Constraint) {v : AttributeValue} {o : Outcome}
    (h : c.outcome v = .ok o) : o.SingleLine := by
  rcases source_of_outcome h with ⟨e, he⟩ | rfl | ⟨s, rfl⟩
  · exact e.singleLine_evaluate he
  · exact singleLine_pass
  · exact ((SingleLine.append (by decide) (Text.singleLine_quoted s)).append (by decide)).append
      (Text.singleLine_quoted c.text)

lemma SourceIdentifier.singleLine_message (e : TokenError) : SingleLine e.message := by
  refine (SingleLine.append (by decide) (Text.singleLine_quoted e.token)).append ?_
  cases e.fault with
  | noColon | emptyPart | stationNumber => decide

namespace Comparison

lemma singleLine_of_sourceVerdict {source constraint : String} {o : Outcome}
    (h : Naive.sourceVerdict source constraint = .ok o) : o.SingleLine := by
  obtain ⟨c, -, h⟩ := Except.bind_eq_ok_iff.mp h
  obtain ⟨p, hp, h⟩ := Except.bind_eq_ok_iff.mp h
  split at h
  · cases h
    exact c.singleLine_outcome hp
  · split at h
    · cases h
      exact c.singleLine_outcome hp
    · next e _ =>
        cases h
        exact ((SingleLine.append (by decide) (Text.singleLine_quoted source)).append
          (by decide)).append (SourceIdentifier.singleLine_message e)

lemma singleLine_of_parse {constraint : String} {v : AttributeValue} {o : Outcome}
    (h : (Constraint.parse constraint v.kind).bind (·.outcome v) = .ok o) : o.SingleLine := by
  obtain ⟨c, -, hc⟩ := Except.bind_eq_ok_iff.mp h
  exact c.singleLine_outcome hc

lemma singleLine_of_verdict {rule : Rule} {node : Node} {value : AttributeValue} {o : Outcome}
    (h : Naive.verdict rule node value = .ok o) : o.SingleLine := by
  cases value with
  | text s =>
      simp only [Naive.verdict] at h
      split at h
      · exact singleLine_of_sourceVerdict h
      · exact singleLine_of_parse (v := .text s) h
  | number | sequence =>
      simp only [Naive.verdict] at h
      exact singleLine_of_parse h

/-- **Every explanation in a finding stands on one line.** -/
lemma singleLine_of_check {rule : Rule} {node : Node} {l : Location} {explanation : String}
    (h : Naive.check rule node = .ok (some (.valueMismatch l explanation))) :
    SingleLine explanation := by
  rcases source_of_check h with ⟨_, heq⟩ | ⟨_, _, hverdict, heq⟩
  · cases heq
  · cases heq
    exact singleLine_of_verdict hverdict

end Comparison

end RadarConform
