import RadarConform.Proofs.Constraint.Canonical
import RadarConform.Proofs.Constraint.Evaluation
import RadarConform.Proofs.Constraint.Progress

/-!
# Chains of clauses

Clauses that are read on their own may be joined by a connective.  The chain is read as the
expressions of its clauses, because no character of a clause belongs to a connective, and what comes
out for it is put together from what comes out for each clause alone.

* `parse_joined` — **the clauses of a joined text are the texts that were joined**.
* `Connective.Composes` — the outcome of a chain in terms of those of its clauses.
* `exists_matched_of_spellsClauses` — the answer to a chain, one clause being a chain, too.
* `evaluateText_joined` — **a chain means its clauses**.
-/

namespace RadarConform

/-- How the outcome `o` of a chain is put together from the outcomes `os` of its clauses.  A failing
conjunction lists the explanations of the clauses that fail; a failing disjunction, of which all
clauses fail, lists all of them after its own canonical text. -/
structure Connective.Composes (k : Connective) (chain : String) (os : List Outcome)
    (o : Outcome) : Prop where
  matched : o.matched = k.combine (os.map (·.matched))
  explanation : o.matched = false → o.explanation =
    match k with
    | .and => Text.joined "; " ((os.filter (!·.matched)).map (·.explanation))
    | .or =>
      "no alternative of " ++ chain ++ " holds: " ++ Text.joined "; " (os.map (·.explanation))

lemma Connective.composes_outcome (k : Connective) (chain : String) (os : List Outcome) :
    k.Composes chain os (k.outcome chain os) := by
  refine ⟨k.matched_outcome chain os, fun hfailed => ?_⟩
  cases k with
  | and =>
      simp only [Connective.outcome] at hfailed ⊢
      split at hfailed
      · cases hfailed
      · next hall => rw [if_neg hall, Outcome.fail]
  | or =>
      simp only [Connective.outcome] at hfailed ⊢
      split at hfailed
      · cases hfailed
      · next hany =>
          have hall : os.filter (!·.matched) = os :=
            List.filter_eq_self.mpr fun o ho => by
              simpa using fun hmatched => hany (List.any_eq_true.mpr ⟨o, ho, hmatched⟩)
          rw [if_neg hany, Outcome.fail, hall]

lemma AttributeValue.kind_number_ne (x : Number) : (AttributeValue.number x).kind ≠ .text :=
  show ValueKind.number ≠ .text by decide

lemma AttributeValue.kind_sequence_ne (xs : List Number) :
    (AttributeValue.sequence xs).kind ≠ .text :=
  show ValueKind.numberSequence ≠ .text by decide

namespace Grammar

open Text

/-! ## Reading -/

/-- What is read without a connective in it is one clause. -/
lemma spellsClause_of_parse {text : String} {kind : ValueKind} {e : Expression}
    (hfree : ∀ k : Connective, ¬ k.mark.toList <:+: text.toList)
    (h : Expression.parse text kind = .ok e) : SpellsClause kind text.toList e := by
  cases parse_eq_ok_iff.mp h with
  | clause h => exact h
  | @chain k _ hclauses hlength =>
      have hmark := holds_iff_infix.mp ((two_le_length_iff hclauses).mp hlength)
      exact absurd hmark (hfree k)

variable {kind : ValueKind} {texts : List String} {es : List Expression}

lemma spellsClauses_joined (k : Connective)
    (h : List.Forall₂ (fun text e => SpellsClause kind text.toList e) texts es)
    (hne : texts ≠ []) : SpellsClauses k kind (joined k.mark texts).toList es := by
  induction h with
  | nil => exact absurd rfl hne
  | @cons text e texts es htext h ih =>
      cases texts with
      | nil =>
          cases h
          exact .one htext
      | cons next texts =>
          rw [joined, String.toList_append, String.toList_append]
          exact .more htext (ih (List.cons_ne_nil next texts))

/-- **A joined text is read as the chain of its clauses.** -/
lemma parse_joined (k : Connective)
    (h : List.Forall₂ (fun text e => SpellsClause kind text.toList e) texts es)
    (hlength : 2 ≤ texts.length) :
    Expression.parse (joined k.mark texts) kind = .ok (.chain k es) := by
  have hne : texts ≠ [] := List.ne_nil_of_length_pos (by omega)
  exact parse_eq_ok_iff.mpr (.chain (spellsClauses_joined k h hne) (h.length_eq ▸ hlength))

/-! ## Evaluating -/

variable {v : AttributeValue}

/-- **Answers.**  A text of one clause or of several has the answer that the connective makes of
those of its clauses. -/
lemma exists_matched_of_spellsClauses (hkind : v.kind ≠ .text) (info : Bool) {k : Connective}
    {text : String} (h : SpellsClauses k v.kind text.toList es) {os : List Outcome}
    (hos : List.Forall₂ (fun e o => e.evaluate v = .ok o) es os) :
    ∃ o, (evaluateText info v text).outcome = .ok o ∧
      o.matched = k.combine (os.map (·.matched)) := by
  generalize htext : text.toList = cs at h
  cases h with
  | one hclause =>
      rw [← htext] at hclause
      obtain ⟨o, os, ho, hnil, rfl⟩ := List.forall₂_cons_left_iff.mp hos
      obtain rfl := List.forall₂_nil_left_iff.mp hnil
      have hparse := parse_eq_ok_iff.mpr (.clause hclause)
      exact ⟨o, (outcome_of_parse info hkind hparse).trans ho, (k.combine_singleton _).symm⟩
  | @more _ _ e es hclause hrest =>
      have hlength : 2 ≤ (e :: es).length := by
        have := length_pos_of_spellsClauses hrest
        rw [List.length_cons]
        omega
      have hspells : Spells v.kind text.toList (.chain k (e :: es)) :=
        htext ▸ .chain (.more hclause hrest) hlength
      refine ⟨k.outcome (Expression.chain k (e :: es)).text os, ?_, k.matched_outcome _ os⟩
      rw [outcome_of_parse info hkind (parse_eq_ok_iff.mpr hspells)]
      exact Expression.evaluate_chain_eq_ok_iff.mpr ⟨os, hos, rfl⟩

/-- What comes out for texts one after the other is what comes out for what they are read as. -/
lemma mapM_evaluateText (hkind : v.kind ≠ .text) (info : Bool)
    (h : List.Forall₂ (fun text e => SpellsClause v.kind text.toList e) texts es) :
    texts.mapM (fun text => (evaluateText info v text).outcome) = es.mapM (·.evaluate v) := by
  refine Except.mapM_eq_mapM_of_forall₂ (h.imp fun text e htext => ?_)
  exact outcome_of_parse info hkind (parse_eq_ok_iff.mpr (.clause htext))

/-- **Evaluating a chain is evaluating its clauses**, from left to right, and putting the outcomes
together. -/
lemma outcome_joined (hkind : v.kind ≠ .text) (info : Bool) (k : Connective)
    (h : List.Forall₂ (fun text e => SpellsClause v.kind text.toList e) texts es)
    (hlength : 2 ≤ texts.length) :
    (evaluateText info v (joined k.mark texts)).outcome =
      (texts.mapM fun text => (evaluateText info v text).outcome).map
        (k.outcome (Expression.chain k es).text) := by
  rw [outcome_of_parse info hkind (parse_joined k h hlength), mapM_evaluateText hkind info h,
    Expression.evaluate, Expression.evaluateAll_eq_mapM]

/-- Where one clause has an outcome on a value all clauses have one. -/
lemma exists_mapM_evaluate (hkind : v.kind ≠ .text)
    (h : List.Forall₂ (fun text e => SpellsClause v.kind text.toList e) texts es)
    {text : String} (htext : text ∈ texts) {info : Bool} {o : Outcome}
    (ho : (evaluateText info v text).outcome = .ok o) :
    ∃ os, texts.mapM (fun text => (evaluateText info v text).outcome) = .ok os := by
  have hsettles : ∀ t ∈ texts, Settles v (evaluateText info v t).outcome := by
    intro t ht
    obtain ⟨e, -, hclause⟩ := exists_of_forall₂ h ht
    rw [outcome_of_parse info hkind (parse_eq_ok_iff.mpr (.clause hclause))]
    exact settles_clause hkind hclause
  have hnone : v.failure? = none := by
    rcases hsettles text htext with ⟨-, hnone, -⟩ | ⟨a, f, -, herror⟩
    · exact hnone
    · rw [ho] at herror
      cases herror
  refine Except.exists_mapM_eq_ok fun t ht => ?_
  rcases hsettles t ht with ⟨p, -, hp⟩ | ⟨a, f, hsome, -⟩
  · exact ⟨p, hp⟩
  · rw [hnone] at hsome
    cases hsome

/-- **A chain means its clauses.**  Let texts without connectives each be read for the kind of a
numeric value.  Joined by one connective they are read as the chain of what each is read as.  If the
first of them fails on the value the chain fails for the same reason; otherwise each of them has an
outcome, and the chain has the one that its connective puts together. -/
theorem evaluateText_joined (hkind : v.kind ≠ .text) (k : Connective) {first : String}
    {rest : List String} (hrest : rest ≠ [])
    (hfree : ∀ text ∈ first :: rest, ∀ j : Connective, ¬ j.mark.toList <:+: text.toList)
    (hparse : List.Forall₂ (fun text e => Expression.parse text v.kind = .ok e) (first :: rest) es)
    (info : Bool) :
    Expression.parse (joined k.mark (first :: rest)) v.kind = .ok (.chain k es) ∧
      (∀ err, (evaluateText info v first).outcome = .error err →
        (evaluateText info v (joined k.mark (first :: rest))).outcome = .error err) ∧
      ∀ o, (evaluateText info v first).outcome = .ok o → ∃ os whole,
        List.Forall₂ (fun text o => (evaluateText info v text).outcome = .ok o)
          (first :: rest) os ∧
        (evaluateText info v (joined k.mark (first :: rest))).outcome = .ok whole ∧
        k.Composes (Expression.chain k es).text os whole := by
  have hspells := ((List.forall₂_and_left (first :: rest) es).mpr ⟨hfree, hparse⟩).imp
    fun text e htext => spellsClause_of_parse htext.1 htext.2
  have hlength : 2 ≤ (first :: rest).length := by
    have := List.length_pos_iff.mpr hrest
    rw [List.length_cons]
    omega
  refine ⟨parse_joined k hspells hlength, fun err herr => ?_, fun o ho => ?_⟩
  · rw [outcome_joined hkind info k hspells hlength, List.mapM_cons, herr]
    rfl
  · obtain ⟨os, hos⟩ := exists_mapM_evaluate hkind hspells List.mem_cons_self ho
    refine ⟨os, _, Except.mapM_eq_ok_iff.mp hos, ?_, k.composes_outcome _ os⟩
    rw [outcome_joined hkind info k hspells hlength, hos]
    rfl

/-- A disjunction that fails on zero, with white space at its connective, and a conjunction on a
sequence without elements, of which the first clause is blamed. -/
theorem evaluateText_joined_of_zero :
    (∃ o, (evaluateText true (.number .zero) "<0 || >0").outcome = .ok o ∧ o.matched = false ∧
      o.explanation = "no alternative of <0||>0 holds: " ++
        "value 0 does not satisfy <0; value 0 does not satisfy >0") ∧
      (evaluateText true (.sequence []) "min>0&&max<0").outcome = .error (.emptySequence .min) := by
  have hzero : Numeral ['0'] .zero := ⟨padded_self _, by decide +kernel, by decide⟩
  have hblank : Blank [' '] := by simp [Blank, isBlank]
  have hfree {kind : ValueKind} {text : String} {e : Expression}
      (h : SpellsClause kind text.toList e) (j : Connective) :
      ¬ j.mark.toList <:+: text.toList := fun hmark =>
    not_infix_mark h j (hmark.trans (List.prefix_append _ _).isInfix)
  constructor
  · have hless : SpellsClause .number "<0 ".toList (.comparison ⟨.less, .zero, none⟩) :=
      .marked (by decide) (.intro blank_nil .less (.exact
        (hzero.pad ⟨[], [' '], blank_nil, hblank, rfl⟩)))
    have hgreater : SpellsClause .number " >0".toList (.comparison ⟨.greater, .zero, none⟩) :=
      .marked (by decide) (.intro hblank .greater (.exact hzero))
    have hfirst : (evaluateText true (.number .zero) "<0 ").outcome =
        .ok (.fail "value 0 does not satisfy <0") := by decide +kernel
    have hsecond : (evaluateText true (.number .zero) " >0").outcome =
        .ok (.fail "value 0 does not satisfy >0") := by decide +kernel
    have htext : (Expression.chain .or [.comparison ⟨.less, .zero, none⟩,
        .comparison ⟨.greater, .zero, none⟩]).text = "<0||>0" := by decide +kernel
    obtain ⟨-, -, hok⟩ := evaluateText_joined
      (AttributeValue.kind_number_ne .zero) .or
      (List.cons_ne_nil " >0" []) (by simpa using ⟨hfree hless, hfree hgreater⟩)
      (.cons (parse_eq_ok_iff.mpr (.clause hless))
        (.cons (parse_eq_ok_iff.mpr (.clause hgreater)) .nil)) true
    obtain ⟨os, whole, hos, hwhole, hmatched, hexplanation⟩ := hok _ hfirst
    rw [← Except.mapM_eq_ok_iff] at hos
    simp only [List.mapM_cons, hfirst, hsecond] at hos
    cases hos
    exact ⟨whole, hwhole, hmatched, by rw [hexplanation hmatched, htext]; rfl⟩
  · have hmin : SpellsClause .numberSequence "min>0".toList
        (.aggregate .min ⟨.greater, .zero, none⟩) :=
      .aggregate (a := .min) blank_nil (.intro blank_nil .greater (.exact hzero))
    have hmax : SpellsClause .numberSequence "max<0".toList
        (.aggregate .max ⟨.less, .zero, none⟩) :=
      .aggregate (a := .max) blank_nil (.intro blank_nil .less (.exact hzero))
    obtain ⟨-, herror, -⟩ := evaluateText_joined
      (AttributeValue.kind_sequence_ne []) .and
      (List.cons_ne_nil "max<0" []) (by simpa using ⟨hfree hmin, hfree hmax⟩)
      (.cons (parse_eq_ok_iff.mpr (.clause hmin))
        (.cons (parse_eq_ok_iff.mpr (.clause hmax)) .nil)) true
    exact herror _ (by decide +kernel)

end Grammar

end RadarConform
