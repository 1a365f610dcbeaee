import RadarConform.Proofs.Comparison.NaiveWalk
import RadarConform.Proofs.Constraint.Progress

/-!
# Which aggregate is blamed

A constraint that was read can be evaluated on every value of its kind, but for sequences without
aggregates.  All clauses of a chain fail on such a sequence, and they are evaluated in order, so the
error is that of the first clause, whatever the connective and whatever the clauses would say.

* `FirstAggregate` — the aggregate of the clause that a text starts with.
* `evaluate_of_failure` — **the first clause is blamed**.
* `IsFirstNotFinite` — the first element of a sequence that is not finite.
* `evaluate_of_parse` — **what was read never gets stuck**: scalars and texts always have an outcome,
  and a sequence lacks one for one of two reasons only.
-/

namespace RadarConform.Grammar

open Text

/-! ## The first clause -/

/-- The characters of connectives. -/
def isConnectiveChar (c : Char) : Bool := c == '&' || c == '|'

/-- The clause that a text starts with: what comes before its first connective. -/
def firstClause (text : List Char) : List Char := text.takeWhile (!isConnectiveChar ·)

/-- The first clause of a text is one for the aggregate. -/
def FirstAggregate (text : String) (a : Aggregate) : Prop :=
  ∃ c, Clause.parse (firstClause text.toList) .numberSequence = .ok (.aggregate a c)

/-- A clause goes on to the first connective, if one follows. -/
lemma firstClause_append {kind : ValueKind} {text : List Char} {e : Expression}
    (h : SpellsClause kind text e) {rest : List Char}
    (hrest : ∀ c, rest.head? = some c → isConnectiveChar c = true) :
    firstClause (text ++ rest) = text := by
  have hfree : ∀ c ∈ text, (!isConnectiveChar c) = true := by
    intro c hc
    rw [Bool.not_eq_true', ← Bool.not_eq_true]
    intro hconnective
    simp only [isConnectiveChar, Bool.or_eq_true, beq_iff_eq] at hconnective
    exact h.connective_notMem hconnective hc
  have hstop : ∀ c, rest.head? = some c → (!isConnectiveChar c) = false := by
    intro c hc
    rw [hrest c hc, Bool.not_true]
  exact (Text.cut_run hfree hstop).1

lemma firstClause_self {kind : ValueKind} {text : List Char} {e : Expression}
    (h : SpellsClause kind text e) : firstClause text = text := by
  have happend : firstClause (text ++ []) = text := firstClause_append h nofun
  rwa [List.append_nil] at happend

/-- The mark of a connective is made of the characters of connectives. -/
lemma isConnectiveChar_of_mark (k : Connective) (rest : List Char) :
    ∀ c, (k.mark.toList ++ rest).head? = some c → isConnectiveChar c = true := by
  intro c hc
  cases k with
  | and | or =>
      cases hc
      rfl

variable {xs : List Number} {f : Aggregate.Failure}

/-! ## Sequences without aggregates -/

/-- A clause for sequences fails for what is wrong with the sequence, and names its aggregate. -/
lemma evaluate_clause_of_failure (hf : Aggregate.failure? xs = some f) {text : List Char}
    {e : Expression} (h : SpellsClause .numberSequence text e) :
    ∃ a c, Clause.parse text .numberSequence = .ok (.aggregate a c) ∧
      e.evaluate (.sequence xs) = .error (.ofFailure a f) := by
  have hparse := clauseParse_eq_ok_iff.mpr h
  cases h with
  | bare hne | marked hne => exact absurd rfl hne
  | @aggregate _ _ a c =>
      refine ⟨a, c, hparse, ?_⟩
      rcases a.apply_eq xs with ⟨x, hnone, -⟩ | ⟨g, hsome, happly⟩
      · rw [hf] at hnone
        cases hnone
      · rw [hf] at hsome
        cases hsome
        rw [Expression.evaluate, happly]

/-- Of the clauses of a chain the first one fails, and no other is evaluated. -/
lemma evaluateAll_of_failure (hf : Aggregate.failure? xs = some f) {k : Connective}
    {text : List Char} {es : List Expression} (h : SpellsClauses k .numberSequence text es) :
    ∃ a c, Clause.parse (firstClause text) .numberSequence = .ok (.aggregate a c) ∧
      Expression.evaluateAll es (.sequence xs) = .error (.ofFailure a f) := by
  cases h with
  | one h =>
      obtain ⟨a, c, hparse, heval⟩ := evaluate_clause_of_failure hf h
      refine ⟨a, c, by rwa [firstClause_self h], ?_⟩
      rw [Expression.evaluateAll, heval]
      rfl
  | more h _ =>
      obtain ⟨a, c, hparse, heval⟩ := evaluate_clause_of_failure hf h
      refine ⟨a, c, ?_, ?_⟩
      · rwa [List.append_assoc, firstClause_append h (isConnectiveChar_of_mark k _)]
      · rw [Expression.evaluateAll, heval]
        rfl

/-- **The first clause is blamed.** -/
lemma evaluate_of_failure (hf : Aggregate.failure? xs = some f) {text : String} {e : Expression}
    (h : Spells .numberSequence text.toList e) : ∃ a, FirstAggregate text a ∧
      e.evaluate (.sequence xs) = .error (.ofFailure a f) := by
  cases h with
  | clause h =>
      obtain ⟨a, c, hparse, heval⟩ := evaluate_clause_of_failure hf h
      exact ⟨a, ⟨c, by rwa [firstClause_self h]⟩, heval⟩
  | chain h _ =>
      obtain ⟨a, c, hparse, heval⟩ := evaluateAll_of_failure hf h
      refine ⟨a, ⟨c, hparse⟩, ?_⟩
      rw [Expression.evaluate, heval]
      rfl

/-- The outcome on a sequence without aggregates is the error of the first clause. -/
lemma outcome_of_failure (hf : Aggregate.failure? xs = some f) {text : String} {c : Constraint}
    (h : Constraint.parse text .numberSequence = .ok c) :
    ∃ a, FirstAggregate text a ∧ c.outcome (.sequence xs) = .error (.ofFailure a f) := by
  obtain ⟨e, he, rfl⟩ := Except.map_eq_ok_iff.mp h
  obtain ⟨a, hfirst, heval⟩ := evaluate_of_failure hf (parse_eq_ok_iff.mp he)
  exact ⟨a, hfirst, heval⟩

/-- A constraint for sequences starts with an aggregate. -/
lemma exists_firstAggregate {text : String} {c : Constraint}
    (h : Constraint.parse text .numberSequence = .ok c) : ∃ a, FirstAggregate text a := by
  -- The empty sequence has no aggregates, and some aggregate is blamed for that.
  obtain ⟨a, hfirst, -⟩ := outcome_of_failure (Aggregate.failure?_eq_empty_iff.mpr rfl) h
  exact ⟨a, hfirst⟩

/-- A text starts with one clause only. -/
lemma FirstAggregate.unique {text : String} {a b : Aggregate} (ha : FirstAggregate text a)
    (hb : FirstAggregate text b) : a = b := by
  obtain ⟨c, hc⟩ := ha
  obtain ⟨d, hd⟩ := hb
  rw [hc] at hd
  cases hd
  rfl

/-! ## What can go wrong -/

/-- The first element of a sequence that is not finite, with its place. -/
def IsFirstNotFinite (xs : List Number) (i : Nat) (x : Number) : Prop :=
  ∃ before after, xs = before ++ x :: after ∧ i = before.length ∧ x.isFinite = false ∧
    ∀ y ∈ before, y.isFinite = true

lemma failure?_eq_isFirstNotFinite_iff {i : Nat} {x : Number} :
    Aggregate.failure? xs = some (.notFinite i x) ↔ IsFirstNotFinite xs i x := by
  rw [Aggregate.failure?_eq_notFinite_iff, Aggregate.firstNotFinite_eq_some_iff, IsFirstNotFinite]
  simp only [Nat.zero_add]

/-- A constraint for sequences has an outcome, or its first clause says why there is none. -/
lemma outcome_sequence_cases {text : String} {c : Constraint} {a : Aggregate}
    (h : Constraint.parse text .numberSequence = .ok c) (ha : FirstAggregate text a)
    (xs : List Number) :
    (∃ o, Aggregate.failure? xs = none ∧ c.outcome (.sequence xs) = .ok o) ∨
      ∃ f, Aggregate.failure? xs = some f ∧
        c.outcome (.sequence xs) = .error (.ofFailure a f) := by
  rcases settles_outcome (v := .sequence xs) h with ⟨o, hnone, hok⟩ | ⟨_, f, hsome, -⟩
  · exact .inl ⟨o, hnone, hok⟩
  · obtain ⟨b, hb, herror⟩ := outcome_of_failure hsome h
    rw [hb.unique ha] at herror
    exact .inr ⟨f, hsome, herror⟩

/-- **What was read never gets stuck.**  A constraint that was read for the kind of a value is never
found invalid when it is evaluated on the value.  On a text or a number there is always an outcome.
On a sequence there is one exactly if the sequence is not empty and its elements are finite; of an
empty sequence the error says so, and otherwise it tells the first element that is not finite.  The
aggregate that the error names is that of the first clause of the text. -/
theorem evaluate_of_parse {text : String} {kind : ValueKind} {c : Constraint}
    (h : Constraint.parse text kind = .ok c) {v : AttributeValue} (hkind : v.kind = kind)
    (info : Bool) :
    (∀ fragment fault, (c.evaluate info v).outcome ≠ .error (.invalid fragment fault)) ∧
      (kind ≠ .numberSequence → ∃ o, (c.evaluate info v).outcome = .ok o) ∧
      ∀ xs, v = .sequence xs → ∃ a, FirstAggregate text a ∧
        (∀ b, (c.evaluate info v).outcome = .error (.emptySequence b) ↔ xs = [] ∧ b = a) ∧
        (∀ b i x, (c.evaluate info v).outcome = .error (.notFinite b i x) ↔
          IsFirstNotFinite xs i x ∧ b = a) ∧
        ((∃ o, (c.evaluate info v).outcome = .ok o) ↔ xs ≠ [] ∧ ∀ x ∈ xs, x.isFinite = true) := by
  subst hkind
  rw [Comparison.outcome_constraint_evaluate]
  refine ⟨?_, ?_, ?_⟩
  · intro fragment fault heq
    rcases settles_outcome h with ⟨o, -, hok⟩ | ⟨a, f, -, herror⟩
    · rw [hok] at heq
      cases heq
    · rw [herror] at heq
      cases f <;> cases heq
  · intro hkind
    rcases settles_outcome h with ⟨o, -, hok⟩ | ⟨a, f, hsome, -⟩
    · exact ⟨o, hok⟩
    · cases v with
      | text | number => cases hsome
      | sequence => exact absurd rfl hkind
  · rintro xs rfl
    obtain ⟨a, ha⟩ := exists_firstAggregate h
    refine ⟨a, ha, ?_⟩
    rw [← Aggregate.failure?_eq_none_iff]
    simp only [← @Aggregate.failure?_eq_empty_iff xs, ← failure?_eq_isFirstNotFinite_iff]
    rcases outcome_sequence_cases h ha xs with ⟨o, hnone, hok⟩ | ⟨f, hsome, herror⟩
    · simp [hnone, hok]
    · rw [hsome, herror]
      cases f with
      | empty => simp [ConstraintError.ofFailure, eq_comm]
      | notFinite i x => simp [ConstraintError.ofFailure, eq_comm, and_comm]

/-- A disjunction of two clauses for sequences. -/
def rangeText : String := " max > 1 || min >= 0 "

lemma firstAggregate_rangeText {a : Aggregate} (h : FirstAggregate rangeText a) : a = .max := by
  obtain ⟨c, hc⟩ := h
  have hblank : Blank [' '] := by simp [Blank, isBlank]
  have hone : Numeral [' ', '1', ' '] (.ofRank false (1023 * Number.binade)) :=
    ⟨⟨[' '], [' '], hblank, hblank, rfl⟩, show Number.ofText? ['1'] = _ by decide +kernel, by decide⟩
  have hspells : SpellsClause .numberSequence (firstClause rangeText.toList)
      (.aggregate .max ⟨.greater, .ofRank false (1023 * Number.binade), none⟩) :=
    .aggregate (a := .max) hblank (.intro hblank .greater (.exact hone))
  rw [clauseParse_eq_ok_iff.mpr hspells] at hc
  cases hc
  rfl

/-- The second clause would hold of the first element, but the first one is blamed. -/
theorem evaluate_of_parse_rangeText :
    ∃ c, Constraint.parse rangeText .numberSequence = .ok c ∧
      (c.evaluate true (.sequence [.zero, .infinity false, .nan])).outcome
        = .error (.notFinite .max 1 (.infinity false)) ∧
      (c.evaluate true (.sequence [])).outcome = .error (.emptySequence .max) ∧
      ∃ o, (c.evaluate true (.sequence [.zero])).outcome = .ok o := by
  have hparse : (Constraint.parse rangeText .numberSequence).toOption.isSome = true := by
    decide +kernel
  obtain ⟨c, hc⟩ := Option.isSome_iff_exists.mp hparse
  rw [Except.toOption_eq_some_iff] at hc
  have hresult (xs : List Number) :=
    (evaluate_of_parse hc (v := .sequence xs) rfl true).2.2 xs rfl
  refine ⟨c, hc, ?_, ?_, ?_⟩
  · obtain ⟨a, ha, -, hnotFinite, -⟩ := hresult [.zero, .infinity false, .nan]
    rw [firstAggregate_rangeText ha] at hnotFinite
    exact (hnotFinite _ _ _).mpr ⟨⟨[.zero], [.nan], rfl, rfl, rfl, by decide⟩, rfl⟩
  · obtain ⟨a, ha, hempty, -⟩ := hresult []
    rw [firstAggregate_rangeText ha] at hempty
    exact (hempty _).mpr ⟨rfl, rfl⟩
  · obtain ⟨a, -, -, -, hok⟩ := hresult [.zero]
    exact hok.mpr ⟨List.cons_ne_nil _ _, by decide⟩

end RadarConform.Grammar
