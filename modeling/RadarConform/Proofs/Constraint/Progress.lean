import RadarConform.Constraint.Evaluation
import RadarConform.Proofs.Computation
import RadarConform.Proofs.Constraint.Acceptance

/-!
# Constraints that were read can be evaluated

What the reader accepts for a kind of values fits the values of that kind: a scalar meets
comparisons only and a sequence aggregates only.  All that can go wrong is a sequence without
aggregates, and then it goes wrong whatever the constraint says.

* `Aggregate.failure?` — what keeps the aggregates of a sequence from being computed; it does not
  depend on which aggregate is asked for.
* `Settles` — an evaluation that gives a result, unless the value is such a sequence.
* `settles_outcome` — **an evaluation of what was read for the kind of a value settles**.
-/

namespace RadarConform

/-! ## Sequences without aggregates -/

namespace Aggregate

/-- The first element that is not finite comes after finite ones, and its place is their number. -/
lemma firstNotFinite_eq_some_iff {start i : Nat} {xs : List Number} {x : Number} :
    firstNotFinite start xs = some (i, x) ↔
      ∃ before after, xs = before ++ x :: after ∧ i = start + before.length ∧
        x.isFinite = false ∧ ∀ y ∈ before, y.isFinite = true := by
  induction xs generalizing start with
  | nil => simp [firstNotFinite]
  | cons y ys ih =>
      rw [firstNotFinite]
      cases hy : y.isFinite with
      | true =>
          rw [if_pos rfl, ih]
          constructor
          · rintro ⟨before, after, rfl, rfl, hx, hbefore⟩
            refine ⟨y :: before, after, rfl, by simp only [List.length_cons]; omega, hx, ?_⟩
            exact List.forall_mem_cons.mpr ⟨hy, hbefore⟩
          · rintro ⟨before, after, heq, rfl, hx, hbefore⟩
            rcases List.cons_eq_append_iff.mp heq with ⟨rfl, heq⟩ | ⟨before, rfl, rfl⟩
            · cases heq
              rw [hx] at hy
              cases hy
            · exact ⟨before, after, rfl, by simp only [List.length_cons]; omega, hx,
                (List.forall_mem_cons.mp hbefore).2⟩
      | false =>
          simp only [Bool.false_eq_true, if_false, Option.some.injEq, Prod.mk.injEq]
          constructor
          · rintro ⟨rfl, rfl⟩
            exact ⟨[], ys, rfl, rfl, hy, nofun⟩
          · rintro ⟨before, after, heq, rfl, -, hbefore⟩
            rcases List.cons_eq_append_iff.mp heq with ⟨rfl, heq⟩ | ⟨before, rfl, rfl⟩
            · cases heq
              exact ⟨rfl, rfl⟩
            · rw [hbefore y List.mem_cons_self] at hy
              cases hy

lemma firstNotFinite_eq_none_iff {start : Nat} {xs : List Number} :
    firstNotFinite start xs = none ↔ ∀ x ∈ xs, x.isFinite = true := by
  induction xs generalizing start with
  | nil => simp [firstNotFinite]
  | cons y ys ih =>
      rw [firstNotFinite, List.forall_mem_cons]
      cases y.isFinite with
      | true => simp [ih]
      | false => simp

/-- What keeps the aggregates of a sequence from being computed. -/
def failure? (xs : List Number) : Option Failure :=
  match firstNotFinite 0 xs with
  | some (i, x) => some (.notFinite i x)
  | none => if xs = [] then some .empty else none

/-- **No aggregate is better off than another one.** -/
lemma apply_eq (a : Aggregate) (xs : List Number) :
    (∃ x, failure? xs = none ∧ a.apply xs = .ok x) ∨
      ∃ f, failure? xs = some f ∧ a.apply xs = .error f := by
  simp only [failure?, apply]
  cases firstNotFinite 0 xs with
  | some found => exact .inr ⟨_, rfl, rfl⟩
  | none =>
      cases xs with
      | nil => exact .inr ⟨_, rfl, rfl⟩
      | cons x rest => exact .inl ⟨_, rfl, rfl⟩

lemma failure?_eq_none_iff {xs : List Number} :
    failure? xs = none ↔ xs ≠ [] ∧ ∀ x ∈ xs, x.isFinite = true := by
  rw [failure?]
  cases hfirst : firstNotFinite 0 xs with
  | some found =>
      have hsome : ¬ ∀ x ∈ xs, x.isFinite = true := by
        intro hfinite
        rw [firstNotFinite_eq_none_iff.mpr hfinite] at hfirst
        cases hfirst
      simp [hsome]
  | none =>
      have hfinite := firstNotFinite_eq_none_iff.mp hfirst
      simpa using fun _ => hfinite

lemma failure?_eq_empty_iff {xs : List Number} : failure? xs = some .empty ↔ xs = [] := by
  rw [failure?]
  cases hfirst : firstNotFinite 0 xs with
  | some found =>
      have hne : xs ≠ [] := by
        rintro rfl
        cases hfirst
      simp [hne]
  | none => simp

lemma failure?_eq_notFinite_iff {xs : List Number} {i : Nat} {x : Number} :
    failure? xs = some (.notFinite i x) ↔ firstNotFinite 0 xs = some (i, x) := by
  rw [failure?]
  cases hfirst : firstNotFinite 0 xs with
  | some found => simp [Prod.ext_iff]
  | none => simp

end Aggregate

/-- What keeps a value from being evaluated: a sequence without aggregates. -/
def AttributeValue.failure? : AttributeValue → Option Aggregate.Failure
  | .sequence xs => Aggregate.failure? xs
  | _ => none

namespace Grammar

/-! ## Evaluations that settle -/

variable {α β : Type}

/-- An evaluation on a value: it gives a result, unless the value is a sequence without aggregates;
then it fails for that reason. -/
def Settles (v : AttributeValue) (x : Except ConstraintError α) : Prop :=
  (∃ a, v.failure? = none ∧ x = .ok a) ∨
    ∃ a f, v.failure? = some f ∧ x = .error (.ofFailure a f)

variable {v : AttributeValue}

lemma Settles.map {x : Except ConstraintError α} (hx : Settles v x) (f : α → β) :
    Settles v (x.map f) := by
  rcases hx with ⟨a, hnone, rfl⟩ | ⟨a, g, hsome, rfl⟩
  · exact .inl ⟨f a, hnone, rfl⟩
  · exact .inr ⟨a, g, hsome, rfl⟩

/-- Of two evaluations on one value the second goes on where the first gave a result. -/
lemma Settles.bind {x : Except ConstraintError α} (hx : Settles v x)
    {f : α → Except ConstraintError β} (hf : ∀ a, Settles v (f a)) : Settles v (x >>= f) := by
  rcases hx with ⟨a, -, rfl⟩ | ⟨a, g, hsome, rfl⟩
  · exact hf a
  · exact .inr ⟨a, g, hsome, rfl⟩

/-! ## Expressions -/

lemma settles_clause {text : List Char} {e : Expression} (hkind : v.kind ≠ .text)
    (h : SpellsClause v.kind text e) : Settles v (e.evaluate v) := by
  cases v with
  | text s => exact absurd rfl hkind
  | number x =>
      cases h with
      | bare | marked => exact .inl ⟨_, rfl, by rw [Expression.evaluate]⟩
  | sequence xs =>
      -- The kind is an index of the spelling; named, it lets the cases for scalars be left out.
      generalize hsequence : (AttributeValue.sequence xs).kind = kind at h
      cases h with
      | bare hne | marked hne => exact absurd hsequence.symm hne
      | @aggregate _ _ a c =>
          rw [Expression.evaluate]
          rcases a.apply_eq xs with ⟨x, hnone, happly⟩ | ⟨f, hsome, happly⟩
          · exact .inl ⟨_, hnone, by rw [happly]⟩
          · exact .inr ⟨a, f, hsome, by rw [happly]⟩

lemma settles_clauses {k : Connective} {text : List Char} {es : List Expression}
    (hkind : v.kind ≠ .text) (h : SpellsClauses k v.kind text es) :
    Settles v (Expression.evaluateAll es v) := by
  induction h with
  | one h =>
      simp only [Expression.evaluateAll]
      exact (settles_clause hkind h).map _
  | more h _ ih =>
      rw [Expression.evaluateAll]
      exact (settles_clause hkind h).bind fun first => ih.map (first :: ·)

lemma settles_evaluate {text : List Char} {e : Expression} (hkind : v.kind ≠ .text)
    (h : Spells v.kind text e) : Settles v (e.evaluate v) := by
  cases h with
  | clause h => exact settles_clause hkind h
  | chain h _ =>
      rw [Expression.evaluate]
      exact (settles_clauses hkind h).map _

/-- **What was read for the kind of a value can be evaluated on it.** -/
lemma settles_outcome {text : String} {c : Constraint}
    (h : Constraint.parse text v.kind = .ok c) : Settles v (c.outcome v) := by
  cases v with
  | text s =>
      simp only [AttributeValue.kind, Constraint.parse] at h
      split at h
      · next p hp =>
          cases h
          simp only [Constraint.outcome, AttributeValue.kind, ne_eq, not_true_eq_false, if_false]
          cases p.found s.toList with
          | true => exact .inl ⟨_, rfl, rfl⟩
          | false => exact .inl ⟨_, rfl, rfl⟩
      · cases h
  | number x =>
      obtain ⟨e, he, rfl⟩ := Except.map_eq_ok_iff.mp h
      exact settles_evaluate (v := .number x) nofun (parse_eq_ok_iff.mp he)
  | sequence xs =>
      obtain ⟨e, he, rfl⟩ := Except.map_eq_ok_iff.mp h
      exact settles_evaluate (v := .sequence xs) nofun (parse_eq_ok_iff.mp he)

lemma settles_parse {text : String} {c : Constraint} (h : Constraint.parse text v.kind = .ok c) :
    Settles v ((Constraint.parse text v.kind).bind (·.outcome v)) := by
  rw [h]
  exact settles_outcome h

end Grammar

end RadarConform
