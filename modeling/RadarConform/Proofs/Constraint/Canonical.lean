import RadarConform.Constraint.Evaluation
import RadarConform.Proofs.Comparison.NaiveWalk
import RadarConform.Proofs.Constraint.Acceptance
import RadarConform.Proofs.Number.RoundTrip

/-!
# Canonical texts

The canonical text of a numeric constraint is written without white space, with every comparator in
its long form and every number in positional notation.  It is a text of the grammar again.

* `Limit.canonical`, `SpellsClause.canonical`, `Spells.canonical` — whatever text spells an
  expression, **the canonical text of the expression spells it, too**.
* `parse_text` — reading a text, writing the expression and reading again changes nothing, neither
  the expression nor what comes out for any value.

That no piece of the written text runs into the next one is not argued here: the grammar says how
the pieces stand side by side, and the reader follows the grammar (`parse_eq_ok_iff`).
-/

namespace RadarConform.Grammar

open Text

/-! ## Pieces -/

lemma Numeral.isFinite {text : List Char} {x : Number} (h : Numeral text x) :
    x.isFinite = true := by
  obtain ⟨-, -, hfinite⟩ := h
  exact hfinite

lemma Numeral.canonical {text : List Char} {x : Number} (h : Numeral text x) :
    Numeral x.text.toList x :=
  ⟨padded_self _, Number.ofText?_text h.isFinite, h.isFinite⟩

lemma mark_canonical (comparator : Comparator) : Mark comparator.mark.toList comparator := by
  cases comparator with
  | equal => exact .doubleEqual
  | atLeast => exact .atLeast
  | atMost => exact .atMost
  | greater => exact .greater
  | less => exact .less

lemma Limit.canonical {comparator : Comparator} {text : List Char} {c : Comparison}
    (h : Limit comparator text c) : Marked c.text.toList c := by
  have hmark := mark_canonical comparator
  cases h with
  | exact hx =>
      simpa [Comparison.text] using Marked.intro blank_nil hmark (.exact hx.canonical)
  | within hx hy hneg =>
      have hlimit := Limit.within hx.canonical hy.canonical hneg
      simpa [Comparison.text] using Marked.intro blank_nil hmark hlimit

lemma Marked.canonical {text : List Char} {c : Comparison} (h : Marked text c) :
    Marked c.text.toList c := by
  obtain ⟨-, -, hlimit⟩ := h
  exact hlimit.canonical

/-! ## Clauses and chains -/

lemma SpellsClause.canonical {kind : ValueKind} {text : List Char} {e : Expression}
    (h : SpellsClause kind text e) : SpellsClause kind e.text.toList e := by
  cases h with
  | bare hkind hlimit =>
      rw [Expression.text]
      exact .marked hkind hlimit.canonical
  | marked hkind hmarked =>
      rw [Expression.text]
      exact .marked hkind hmarked.canonical
  | @aggregate _ _ a _ _ hmarked =>
      rw [Expression.text, String.toList_append]
      exact .aggregate (a := a) blank_nil hmarked.canonical

lemma SpellsClauses.canonical {k : Connective} {kind : ValueKind} {text : List Char}
    {es : List Expression} (h : SpellsClauses k kind text es) :
    SpellsClauses k kind (Expression.chainText k.mark es).toList es := by
  induction h with
  | one h =>
      rw [Expression.chainText]
      exact .one h.canonical
  | @more _ _ e es h hrest ih =>
      obtain ⟨d, ds, rfl⟩ := List.exists_cons_of_length_pos (length_pos_of_spellsClauses hrest)
      rw [Expression.chainText, String.toList_append, String.toList_append]
      exact .more h.canonical ih

/-- **The canonical text spells the expression.** -/
lemma Spells.canonical {kind : ValueKind} {text : List Char} {e : Expression}
    (h : Spells kind text e) : Spells kind e.text.toList e := by
  cases h with
  | clause h => exact .clause h.canonical
  | chain h hlength =>
      rw [Expression.text]
      exact .chain h.canonical hlength

/-! ## Reading the canonical text -/

lemma parse_canonical {text : String} {kind : ValueKind} {e : Expression}
    (h : Expression.parse text kind = .ok e) : Expression.parse e.text kind = .ok e :=
  parse_eq_ok_iff.mpr (parse_eq_ok_iff.mp h).canonical

/-- The outcome of a numeric constraint is that of its expression; the text does not matter. -/
lemma outcome_of_parse {text : String} {v : AttributeValue} {e : Expression} (info : Bool)
    (hkind : v.kind ≠ .text) (h : Expression.parse text v.kind = .ok e) :
    (evaluateText info v text).outcome = e.evaluate v := by
  rw [Comparison.outcome_evaluateText]
  cases v with
  | text s => exact absurd rfl hkind
  | number x => simp_all [Constraint.parse, Constraint.outcome]
  | sequence xs => simp_all [Constraint.parse, Constraint.outcome]

/-- **The canonical text means the same.**  The canonical text of a constraint for numbers or
sequences of numbers is read as the expression it was written from, and evaluating either text on a
value of that kind gives the same outcome or the same error. -/
theorem parse_text {text : String} {kind : ValueKind} {e : Expression} (hkind : kind ≠ .text)
    (h : Expression.parse text kind = .ok e) :
    Expression.parse e.text kind = .ok e ∧
      ∀ (info : Bool) (v : AttributeValue), v.kind = kind →
        (evaluateText info v e.text).outcome = (evaluateText info v text).outcome := by
  refine ⟨parse_canonical h, ?_⟩
  rintro info v rfl
  rw [outcome_of_parse info hkind h, outcome_of_parse info hkind (parse_canonical h)]

/-- A negative threshold with an exponent, a tolerance and white space, and their canonical text. -/
theorem parse_text_of_tolerance :
    ∃ e, Expression.parse "-1e1 +- .5 " .number = .ok e ∧
      Expression.parse "==-10+-0.5" .number = .ok e ∧ ∀ (info : Bool) (x : Number),
        (evaluateText info (.number x) "==-10+-0.5").outcome
          = (evaluateText info (.number x) "-1e1 +- .5 ").outcome := by
  have hten : Numeral "-1e1 ".toList (.ofRank true (1026 * Number.binade + Number.binade / 4)) :=
    ⟨⟨[], [' '], blank_nil, by simp [Blank, isBlank], rfl⟩,
      show Number.ofText? ['-', '1', 'e', '1'] = _ by decide +kernel, by decide⟩
  have hhalf : Numeral " .5 ".toList (.ofRank false (1022 * Number.binade)) :=
    ⟨⟨[' '], [' '], by simp [Blank, isBlank], by simp [Blank, isBlank], rfl⟩,
      show Number.ofText? ['.', '5'] = _ by decide +kernel, by decide⟩
  have hparse : Expression.parse "-1e1 +- .5 " .number = .ok _ :=
    parse_eq_ok_iff.mpr (.clause (.bare (by decide) (.within hten hhalf (by decide +kernel))))
  have htext : Comparison.text ⟨.equal, .ofRank true (1026 * Number.binade + Number.binade / 4),
      some (.ofRank false (1022 * Number.binade))⟩ = "==-10+-0.5" := by decide +kernel
  obtain ⟨hcanonical, hsame⟩ := parse_text (by decide) hparse
  rw [Expression.text, htext] at hcanonical hsame
  exact ⟨_, hparse, hcanonical, fun info x => hsame info (.number x) rfl⟩

end RadarConform.Grammar
