import RadarConform.Proofs.Constraint.Chain
import RadarConform.Proofs.Number.Order

/-!
# Complements of chains

Away from `nan` an ordering comparison fails exactly where the opposite one holds, and the opposite
of all is any.  So the chain in which every mark is replaced by the opposite one, the connective
among them, is satisfied by the numbers that the chain refuses.  On `nan` both fail, like any other
constraint.

* `Comparator.complement`, `Connective.dual` — the opposite marks.
* `Comparison.holds_complement`, `Connective.combine_dual` — **opposite marks, opposite answers**.
* `Comparison.holds_nan` — no comparison holds of `nan`.
* `OrderingClause` — the texts of clauses that compare by an order, and their complements.
* `split_of_complement` — **a chain and its complement split the numbers**.
-/

namespace RadarConform

open Text Grammar

/-! ## Opposite marks -/

/-- The comparator of the opposite order; equality has none. -/
def Comparator.complement : Comparator → Comparator
  | .atLeast => .less
  | .less => .atLeast
  | .atMost => .greater
  | .greater => .atMost
  | .equal => .equal

lemma Comparator.complement_ne_equal {comparator : Comparator} (h : comparator ≠ .equal) :
    comparator.complement ≠ .equal := by
  cases comparator with
  | equal => exact absurd rfl h
  | atLeast | atMost | greater | less => decide

/-- The other connective. -/
def Connective.dual : Connective → Connective
  | .and => .or
  | .or => .and

/-- **The opposite comparison** holds where a comparison does not. -/
lemma Comparison.holds_complement {comparator : Comparator} (hordering : comparator ≠ .equal)
    {x t : Number} (hx : x ≠ .nan) (ht : t ≠ .nan) (tolerance tolerance' : Option Number) :
    Comparison.holds ⟨comparator.complement, t, tolerance'⟩ x =
      !Comparison.holds ⟨comparator, t, tolerance⟩ x := by
  cases comparator with
  | equal => exact absurd rfl hordering
  | atLeast => exact Number.lt_eq_not_le hx ht
  | atMost => exact Number.lt_eq_not_le ht hx
  | greater =>
      simp only [Comparison.holds, Comparator.complement, Number.lt_eq_not_le ht hx, Bool.not_not]
  | less =>
      simp only [Comparison.holds, Comparator.complement, Number.lt_eq_not_le hx ht, Bool.not_not]

/-- No comparison holds of `nan`, however large its tolerance. -/
lemma Comparison.holds_nan (c : Comparison) : c.holds .nan = false := by
  obtain ⟨comparator, threshold, tolerance⟩ := c
  cases comparator with
  | equal => cases tolerance <;> rfl
  | atLeast => exact Number.le_nan threshold
  | atMost => rfl
  | greater => exact Number.lt_nan threshold
  | less => rfl

/-- **The opposite of all is any.** -/
lemma Connective.combine_dual (k : Connective) (answers : List Bool) :
    k.dual.combine (answers.map (!·)) = !k.combine answers := by
  cases k with
  | and => simp [Connective.dual, Connective.combine, List.any_map, List.not_all_eq_any_not]
  | or => simp [Connective.dual, Connective.combine, List.all_map, List.not_any_eq_all_not]

/-- Comparisons of `nan` all fail, and so does each chain of them. -/
lemma Connective.combine_holds_nan (k : Connective) {cs : List Comparison} (hne : cs ≠ []) :
    k.combine (cs.map (·.holds .nan)) = false := by
  obtain ⟨c, rest, rfl⟩ := List.exists_cons_of_ne_nil hne
  cases k with
  | and => simp [Connective.combine, c.holds_nan]
  | or => simp [Connective.combine, Comparison.holds_nan]

/-! ## Texts of clauses -/

/-- The text of a clause that compares by an order: white space, the mark of the comparator and a
finite number. -/
structure OrderingClause where
  before : List Char
  comparator : Comparator
  limit : List Char
  threshold : Number
  blank : Blank before
  ordering : comparator ≠ .equal
  spelled : Numeral limit threshold

namespace OrderingClause

/-- What the clause is read as. -/
def comparison (clause : OrderingClause) : Comparison :=
  ⟨clause.comparator, clause.threshold, none⟩

def text (clause : OrderingClause) : String :=
  .ofList (clause.before ++ clause.comparator.mark.toList ++ clause.limit)

/-- The clause with the opposite mark; nothing else in the text changes. -/
def complement (clause : OrderingClause) : OrderingClause :=
  { clause with
    comparator := clause.comparator.complement
    ordering := Comparator.complement_ne_equal clause.ordering }

/-- The text of clauses joined by a connective. -/
def chainText (k : Connective) (clauses : List OrderingClause) : String :=
  joined k.mark (clauses.map text)

lemma spellsClause_text (clause : OrderingClause) :
    SpellsClause .number clause.text.toList (.comparison clause.comparison) := by
  rw [text, String.toList_ofList]
  exact .marked (by decide) (.intro clause.blank (mark_canonical _) (.exact clause.spelled))

lemma spellsClauses_chainText (k : Connective) {clauses : List OrderingClause}
    (hne : clauses ≠ []) : SpellsClauses k .number (chainText k clauses).toList
      ((clauses.map comparison).map .comparison) := by
  refine spellsClauses_joined k ?_ (by simpa using hne)
  rw [List.map_map, List.forall₂_map_left_iff, List.forall₂_map_right_iff, List.forall₂_same]
  exact fun clause _ => clause.spellsClause_text

lemma holds_complement (clause : OrderingClause) {x : Number} (hx : x ≠ .nan) :
    clause.complement.comparison.holds x = !clause.comparison.holds x := by
  have ht : clause.threshold ≠ .nan := Number.ne_nan_of_isFinite clause.spelled.isFinite
  exact Comparison.holds_complement clause.ordering hx ht none none

end OrderingClause

/-! ## Chains on numbers -/

/-- The clauses of a constraint on numbers are comparisons. -/
lemma exists_comparisons {k : Connective} {text : List Char} {es : List Expression}
    (h : SpellsClauses k .number text es) :
    ∃ cs : List Comparison, cs ≠ [] ∧ es = cs.map .comparison := by
  have hclause {text : List Char} {e : Expression} (h : SpellsClause .number text e) :
      ∃ c, e = .comparison c := by
    cases h with
    | bare | marked => exact ⟨_, rfl⟩
  induction h with
  | one h =>
      obtain ⟨c, rfl⟩ := hclause h
      exact ⟨[c], List.cons_ne_nil c [], rfl⟩
  | more h _ ih =>
      obtain ⟨c, rfl⟩ := hclause h
      obtain ⟨cs, -, rfl⟩ := ih
      exact ⟨c :: cs, List.cons_ne_nil c cs, rfl⟩

/-- **The answer to a chain of comparisons.** -/
lemma exists_matched_number (info : Bool) (x : Number) {k : Connective} {text : String}
    {cs : List Comparison} (h : SpellsClauses k .number text.toList (cs.map .comparison)) :
    ∃ o, (evaluateText info (.number x) text).outcome = .ok o ∧
      o.matched = k.combine (cs.map (·.holds x)) := by
  have hos : List.Forall₂ (fun e o => Expression.evaluate e (.number x) = .ok o)
      (cs.map .comparison) (cs.map (·.outcome "value" x)) := by
    rw [List.forall₂_map_left_iff, List.forall₂_map_right_iff, List.forall₂_same]
    exact fun c _ => by rw [Expression.evaluate]
  obtain ⟨o, ho, hmatched⟩ :=
    exists_matched_of_spellsClauses (AttributeValue.kind_number_ne x) info h hos
  exact ⟨o, ho, by simpa [Function.comp_def] using hmatched⟩

/-- Nothing that is read for numbers is matched by `nan`. -/
lemma exists_matched_nan (info : Bool) {text : String} {e : Expression}
    (h : Expression.parse text .number = .ok e) :
    ∃ o, (evaluateText info (.number .nan) text).outcome = .ok o ∧ o.matched = false := by
  obtain ⟨k, es, hspells⟩ : ∃ k es, SpellsClauses k .number text.toList es := by
    cases parse_eq_ok_iff.mp h with
    | clause h => exact ⟨.and, _, .one h⟩
    | chain hclauses _ => exact ⟨_, _, hclauses⟩
  obtain ⟨cs, hne, rfl⟩ := exists_comparisons hspells
  obtain ⟨o, ho, hmatched⟩ := exists_matched_number info .nan hspells
  exact ⟨o, ho, hmatched.trans (k.combine_holds_nan hne)⟩

open OrderingClause in
/-- **A chain and its complement split the numbers.**  Clauses that compare by an order are joined
by a connective; in the complement every comparator and the connective are the opposite ones.  Every
number but `nan` satisfies exactly one of the two texts.  The number `nan` satisfies neither, and no
other constraint on numbers. -/
theorem split_of_complement (k : Connective) {clauses : List OrderingClause} (hne : clauses ≠ [])
    (info : Bool) :
    (∀ x : Number, x ≠ .nan → ∃ o o',
        (evaluateText info (.number x) (chainText k clauses)).outcome = .ok o ∧
        (evaluateText info (.number x) (chainText k.dual (clauses.map complement))).outcome =
          .ok o' ∧ o'.matched = !o.matched) ∧
      (∃ o o', (evaluateText info (.number .nan) (chainText k clauses)).outcome = .ok o ∧
        (evaluateText info (.number .nan) (chainText k.dual (clauses.map complement))).outcome =
          .ok o' ∧ o.matched = false ∧ o'.matched = false) ∧
      ∀ (text : String) (e : Expression), Expression.parse text .number = .ok e →
        ∃ o, (evaluateText info (.number .nan) text).outcome = .ok o ∧ o.matched = false := by
  have hchain (x : Number) := exists_matched_number info x (spellsClauses_chainText k hne)
  have hneComplement : clauses.map complement ≠ [] := by simpa using hne
  have hcomplement (x : Number) := exists_matched_number info x
    (spellsClauses_chainText k.dual hneComplement)
  refine ⟨fun x hx => ?_, ?_, fun text e => exists_matched_nan info⟩
  · obtain ⟨o, ho, hmatched⟩ := hchain x
    obtain ⟨o', ho', hmatched'⟩ := hcomplement x
    refine ⟨o, o', ho, ho', ?_⟩
    have hanswers : ((clauses.map complement).map comparison).map (·.holds x) =
        ((clauses.map comparison).map (·.holds x)).map (!·) := by
      simp only [List.map_map]
      exact List.map_congr_left fun clause _ => clause.holds_complement hx
    rw [hmatched', hmatched, hanswers, Connective.combine_dual]
  · obtain ⟨o, ho, hmatched⟩ := hchain .nan
    obtain ⟨o', ho', hmatched'⟩ := hcomplement .nan
    refine ⟨o, o', ho, ho', hmatched.trans (k.combine_holds_nan (by simpa using hne)), ?_⟩
    exact hmatched'.trans (k.dual.combine_holds_nan (by simpa using hne))

open OrderingClause in
/-- Zero is the only number in the range from zero to zero and hence not outside of it; `nan` is not
in the range, not outside of it and not near zero. -/
theorem split_of_complement_zeroRange :
    (∃ o, (evaluateText true (.number .zero) " <0||>0").outcome = .ok o ∧ o.matched = false) ∧
      (∃ o o', (evaluateText true (.number .nan) " >=0&&<=0").outcome = .ok o ∧
        (evaluateText true (.number .nan) " <0||>0").outcome = .ok o' ∧
        o.matched = false ∧ o'.matched = false) ∧
      ∃ o, (evaluateText true (.number .nan) "0+-0").outcome = .ok o ∧ o.matched = false := by
  have hzero : Numeral ['0'] .zero := ⟨padded_self _, by decide +kernel, by decide⟩
  have hblank : Blank [' '] := by simp [Blank, isBlank]
  have hsplit := split_of_complement .and (List.cons_ne_nil
    (⟨[' '], .atLeast, ['0'], .zero, hblank, by decide, hzero⟩ : OrderingClause)
    [⟨[], .atMost, ['0'], .zero, blank_nil, by decide, hzero⟩]) true
  have hrangeText : joined "&&" [.ofList ([' '] ++ ">=".toList ++ ['0']),
      .ofList ([] ++ "<=".toList ++ ['0'])] = " >=0&&<=0" := by decide +kernel
  have houtsideText : joined "||" [.ofList ([' '] ++ "<".toList ++ ['0']),
      .ofList ([] ++ ">".toList ++ ['0'])] = " <0||>0" := by decide +kernel
  simp only [chainText, List.map_cons, List.map_nil, text, complement, Comparator.complement,
    Comparator.mark, Connective.dual, Connective.mark, hrangeText, houtsideText] at hsplit
  obtain ⟨hnumber, hnan, hall⟩ := hsplit
  refine ⟨?_, hnan, hall _ _ (parse_eq_ok_iff.mpr (.clause (.bare (by decide)
    (.within hzero hzero (by decide)))))⟩
  obtain ⟨o, o', ho, ho', hmatched⟩ := hnumber .zero (by decide)
  have hrange : (evaluateText true (.number .zero) " >=0&&<=0").outcome = .ok .pass := by
    decide +kernel
  cases hrange.symm.trans ho
  exact ⟨o', ho', hmatched⟩

end RadarConform
