import Mathlib.Logic.ExistsUnique
import RadarConform.Proofs.Computation
import RadarConform.Proofs.Constraint.Grammar
import RadarConform.Proofs.Text.Pieces

/-!
# The reader accepts the grammar

Each part of the reader is matched with its relation of the grammar: `number_eq_ok_iff`,
`limit_eq_ok_iff`, `comparison_eq_ok_iff`, `clauseParse_eq_ok_iff`, `clauses_eq_ok_iff`.  Where the
reader takes the longest or the first of something, the characters of numerals decide that the
grammar leaves no other choice: none of them is the start of a comparator, so the longest comparator
is the only one; no `+-` starts inside a numeral, so the first is the mark of the tolerance; and none
is part of a connective, so cutting at connectives finds the clauses.

`parse_spells` is the main statement: **the reader gives an expression exactly for the texts that
spell it, and for every other text an error at a contiguous part of it.**
-/

namespace RadarConform.Grammar

open Text

/-! ## Numbers -/

lemma number_eq_ok_iff {clause text : List Char} {role : NumberRole} {x : Number} :
    Clause.number clause text role = .ok x ↔ Numeral text x := by
  simp only [Clause.number]
  constructor
  · intro h
    split at h
    · cases h
    · split at h
      · cases h
      · next hx =>
          split at h
          · next hfinite =>
              cases h
              exact ⟨padded_trim text, hx, hfinite⟩
          · cases h
  · rintro ⟨hpad, hx, hfinite⟩
    obtain ⟨⟨c, rest, hcons, -⟩, hchars, -⟩ := Number.numeral_chars hx hfinite
    have htight := tight_of_forall fun c hc => Number.isBlank_of_isNumeralChar (hchars c hc)
    rw [trim_eq_of_padded hpad htight, if_neg (by simp [hcons]), hx]
    simp [hfinite]

/-- A tolerance is read after equality only. -/
lemma tolerance_eq_ok_iff {clause text : List Char} {comparator : Comparator}
    {t : Option Number} :
    Clause.tolerance clause comparator (some text) = .ok t ↔
      comparator = .equal ∧ ∃ y, t = some y ∧ Numeral text y ∧ y.lt .zero = false := by
  simp only [Clause.tolerance]
  by_cases heq : comparator = .equal
  · simp only [heq, ne_eq, not_true_eq_false, if_false, true_and]
    rw [Except.bind_eq_ok_iff]
    constructor
    · rintro ⟨y, hy, h⟩
      split at h
      · cases h
      · next hneg =>
          cases h
          exact ⟨y, rfl, number_eq_ok_iff.mp hy, by simpa using hneg⟩
    · rintro ⟨y, rfl, hy, hneg⟩
      refine ⟨y, number_eq_ok_iff.mpr hy, ?_⟩
      rw [if_neg (by simp [hneg])]
      rfl
  · rw [if_pos heq]
    constructor
    · intro h
      cases h
    · intro h
      exact absurd h.1 heq

/-! ## What follows a comparator -/

/-- The reader of what follows a comparator. -/
def limit (clause : List Char) (comparator : Comparator) (text : List Char) :
    Except ConstraintError Comparison := do
  let (thresholdText, toleranceText) := Clause.thresholdAndTolerance text
  let threshold ← Clause.number clause thresholdText .threshold
  let tolerance ← Clause.tolerance clause comparator toleranceText
  return { comparator, threshold, tolerance }

lemma thresholdAndTolerance_of_numeral {text : List Char} {x : Number} (h : Numeral text x) :
    Clause.thresholdAndTolerance text = (text, none) := by
  have hcut : cutAt ['+', '-'] text = none := by
    refine cutAt_eq_none_iff.mpr fun hi => h.unsplit ?_
    exact hi.trans (List.prefix_append text _).isInfix
  rw [Clause.thresholdAndTolerance, hcut]

lemma thresholdAndTolerance_of_join {text : List Char} {x : Number} (h : Numeral text x)
    (text' : List Char) :
    Clause.thresholdAndTolerance (text ++ ['+', '-'] ++ text') = (text, some text') := by
  rw [Clause.thresholdAndTolerance, cutAt_append (by simp) h.unsplit]

lemma limit_eq_ok_iff {clause text : List Char} {comparator : Comparator} {c : Comparison} :
    limit clause comparator text = .ok c ↔ Limit comparator text c := by
  constructor
  · intro h
    simp only [limit] at h
    obtain ⟨x, hx, h⟩ := Except.bind_eq_ok_iff.mp h
    obtain ⟨t, ht, h⟩ := Except.bind_eq_ok_iff.mp h
    cases h
    rw [number_eq_ok_iff] at hx
    rcases hcut : cutAt ['+', '-'] text with _ | ⟨before, after⟩
    · simp only [Clause.thresholdAndTolerance, hcut, Clause.tolerance] at hx ht
      cases ht
      exact .exact hx
    · simp only [Clause.thresholdAndTolerance, hcut] at hx ht
      obtain ⟨rfl, y, rfl, hy, hneg⟩ := tolerance_eq_ok_iff.mp ht
      rw [append_of_cutAt hcut]
      exact .within hx hy hneg
  · intro h
    simp only [limit]
    cases h with
    | exact hx =>
        rw [thresholdAndTolerance_of_numeral hx]
        simp only [number_eq_ok_iff.mpr hx, Clause.tolerance]
        rfl
    | within hx hy hneg =>
        have ht : Clause.tolerance clause .equal _ = .ok _ :=
          tolerance_eq_ok_iff.mpr ⟨rfl, _, rfl, hy, hneg⟩
        rw [thresholdAndTolerance_of_join hx]
        simp only [number_eq_ok_iff.mpr hx, ht]
        rfl

/-! ## Comparators -/

/-- The comparator that is taken is one that the text starts with; without one the text starts
with no character of a comparator. -/
lemma take_cases (text : List Char) :
    (∃ mark comparator rest, text = mark ++ rest ∧ Mark mark comparator ∧
      Comparator.take text = (some comparator, rest)) ∨ Comparator.take text = (none, text) := by
  unfold Comparator.take
  split
  · exact .inl ⟨_, _, _, rfl, .doubleEqual, rfl⟩
  · exact .inl ⟨_, _, _, rfl, .atLeast, rfl⟩
  · exact .inl ⟨_, _, _, rfl, .atMost, rfl⟩
  · exact .inl ⟨_, _, _, rfl, .equal, rfl⟩
  · exact .inl ⟨_, _, _, rfl, .greater, rfl⟩
  · exact .inl ⟨_, _, _, rfl, .less, rfl⟩
  · exact .inr rfl

lemma take_mark {mark rest : List Char} {comparator : Comparator} {c : Comparison}
    (hmark : Mark mark comparator) (h : Limit comparator rest c) :
    Comparator.take (mark ++ rest) = (some comparator, rest) := by
  have heq : '=' ∉ rest := notMem_of_chars h.chars (by decide) (by decide)
  cases rest with
  | nil => cases hmark <;> rfl
  | cons a as =>
      have ha : a ≠ '=' := fun ha => heq (ha ▸ List.mem_cons_self)
      cases hmark <;> simp [Comparator.take, ha]

lemma take_bare {text : List Char} {c : Comparison} (h : Limit .equal text c) :
    Comparator.take text = (none, text) := by
  rcases take_cases text with ⟨mark, comparator, rest, rfl, hmark, -⟩ | htake
  · exfalso
    have hmem : ∀ a ∈ mark, a ∈ mark ++ rest := fun a ha => List.mem_append_left rest ha
    have heq := notMem_of_chars h.chars (c := '=') (by decide) (by decide)
    have hgt := notMem_of_chars h.chars (c := '>') (by decide) (by decide)
    have hlt := notMem_of_chars h.chars (c := '<') (by decide) (by decide)
    cases hmark <;> simp at heq hgt hlt
  · exact htake

lemma comparison_eq_limit (clause text : List Char) (marked : Bool) :
    Clause.comparison clause text marked
      = if (Comparator.take text).1 = none ∧ marked = true then
          faultAt clause .comparatorMissing
        else limit clause ((Comparator.take text).1.getD .equal) (Comparator.take text).2 := rfl

/-- A comparison is read from a comparator and a limit; where the comparator may be left out, the
limit of an equality is enough. -/
lemma comparison_eq_ok_iff {clause text : List Char} {marked : Bool} {c : Comparison} :
    Clause.comparison clause text marked = .ok c ↔
      (∃ mark comparator rest, text = mark ++ rest ∧ Mark mark comparator ∧
        Limit comparator rest c) ∨ (marked = false ∧ Limit .equal text c) := by
  rw [comparison_eq_limit]
  constructor
  · intro h
    rcases take_cases text with ⟨mark, comparator, rest, rfl, hmark, htake⟩ | htake
    · rw [htake] at h
      simp only [reduceCtorEq, false_and, if_false, Option.getD_some] at h
      exact .inl ⟨mark, comparator, rest, rfl, hmark, limit_eq_ok_iff.mp h⟩
    · rw [htake] at h
      cases marked with
      | true => cases h
      | false => exact .inr ⟨rfl, limit_eq_ok_iff.mp h⟩
  · rintro (⟨mark, comparator, rest, rfl, hmark, h⟩ | ⟨rfl, h⟩)
    · rw [take_mark hmark h]
      simpa using limit_eq_ok_iff.mpr h
    · rw [take_bare h]
      simpa using limit_eq_ok_iff.mpr h

/-! ## Clauses -/

lemma ofName?_name (a : Aggregate) : Aggregate.ofName? a.name = some a := by
  cases a <;> rfl

lemma name_of_ofName? {s : String} {a : Aggregate} (h : Aggregate.ofName? s = some a) :
    a.name = s := by
  unfold Aggregate.ofName? at h
  split at h <;> cases h <;> rfl

/-- The word of letters that a clause starts with, if there is one, is the name of the aggregate. -/
lemma selector_eq_ok_iff {clause : List Char} {a? : Option Aggregate} :
    Clause.selector clause = .ok a? ↔
      (clause.takeWhile Clause.isLetter = [] ∧ a? = none) ∨
      ∃ a, a? = some a ∧ clause.takeWhile Clause.isLetter = a.name.toList := by
  simp only [Clause.selector]
  by_cases hword : clause.takeWhile Clause.isLetter = []
  · rw [if_pos hword]
    constructor
    · intro h
      cases h
      exact .inl ⟨hword, rfl⟩
    · rintro (⟨-, rfl⟩ | ⟨a, -, ha⟩)
      · rfl
      · exact absurd (ha ▸ hword) (name_ne_nil a)
  · rw [if_neg hword]
    constructor
    · intro h
      split at h
      · next a ha =>
          cases h
          refine .inr ⟨a, rfl, ?_⟩
          rw [name_of_ofName? ha, String.toList_ofList]
      · cases h
    · rintro (⟨h, -⟩ | ⟨a, rfl, ha⟩)
      · exact absurd h hword
      · rw [ha, String.ofList_toList, ofName?_name]

/-- A text that starts with a character that is no letter starts with no word. -/
lemma takeWhile_eq_nil {c : Char} {cs : List Char} (h : Clause.isLetter c = false) :
    (c :: cs).takeWhile Clause.isLetter = [] := by
  rw [List.takeWhile_cons_of_neg (by simp [h])]

lemma isLetter_eq_false_iff {c : Char} : Clause.isLetter c = false ↔
    ¬ (97 ≤ c.toNat ∧ c.toNat ≤ 122) ∧ ¬ (65 ≤ c.toNat ∧ c.toNat ≤ 90) := by
  rw [Clause.isLetter, Bool.or_eq_false_iff, ← Bool.not_eq_true, ← Bool.not_eq_true,
    Bool.and_eq_true, Bool.and_eq_true, decide_eq_true_eq, decide_eq_true_eq, decide_eq_true_eq,
    decide_eq_true_eq]
  exact Iff.rfl

/-- What starts a numeral is no letter. -/
lemma isLetter_of_start {c : Char}
    (h : Decimal.isDigit c = true ∨ ['+', '-', '.'].contains c = true) :
    Clause.isLetter c = false := by
  rcases h with h | h
  · rw [Decimal.isDigit_iff] at h
    rw [isLetter_eq_false_iff]
    omega
  · simp only [List.contains_iff_mem, List.mem_cons, List.not_mem_nil, or_false] at h
    rcases h with rfl | rfl | rfl <;> decide

lemma isLetter_of_isBlank {c : Char} (h : isBlank c = true) : Clause.isLetter c = false := by
  rw [isLetter_eq_false_iff]
  simp only [isBlank, Bool.or_eq_true, Bool.and_eq_true, decide_eq_true_eq, beq_iff_eq] at h
  omega

lemma isLetter_of_mark {mark : List Char} {comparator : Comparator} (h : Mark mark comparator) :
    ∃ c cs, mark = c :: cs ∧ Clause.isLetter c = false := by
  cases h <;> exact ⟨_, _, rfl, by decide⟩

/-- White space at the start of a tight text is none. -/
lemma eq_nil_of_tight {before rest : List Char} (hbefore : Blank before)
    (h : Tight (before ++ rest)) : before = [] := by
  cases before with
  | nil => rfl
  | cons c cs =>
      have hc := h.1 c rfl
      rw [hbefore c List.mem_cons_self] at hc
      cases hc

/-- A tight limit starts with its threshold. -/
lemma takeWhile_isLetter_of_limit {comparator : Comparator} {text : List Char} {c : Comparison}
    (h : Limit comparator text c) (htight : Tight text) :
    text.takeWhile Clause.isLetter = [] := by
  obtain ⟨t, r, x, rfl, hx⟩ : ∃ t r x, text = t ++ r ∧ Numeral t x := by
    cases h with
    | exact hx => exact ⟨_, [], _, by simp, hx⟩
    | within hx _ _ => exact ⟨_, _, _, List.append_assoc .., hx⟩
  obtain ⟨⟨before, after, hbefore, -, rfl⟩, htoken, hfinite⟩ := hx
  obtain ⟨⟨a, rest, rfl, ha⟩, -, -⟩ := Number.numeral_chars htoken hfinite
  rw [List.append_assoc, List.append_assoc] at htight ⊢
  rw [eq_nil_of_tight hbefore htight]
  exact takeWhile_eq_nil (isLetter_of_start ha)

/-- A clause without an aggregate. -/
lemma spellsClause_scalar_iff {kind : ValueKind} (hkind : kind ≠ .numberSequence)
    {clause : List Char} (htight : Tight clause) {e : Expression} :
    SpellsClause kind clause e ↔ ∃ c, e = .comparison c ∧
      ((∃ mark comparator rest, clause = mark ++ rest ∧ Mark mark comparator ∧
        Limit comparator rest c) ∨ Limit .equal clause c) := by
  constructor
  · intro h
    cases h with
    | bare _ hlimit => exact ⟨_, rfl, .inr hlimit⟩
    | marked _ hmarked =>
        obtain ⟨hbefore, hmark, hlimit⟩ := hmarked
        rw [List.append_assoc] at htight
        rw [eq_nil_of_tight hbefore htight]
        exact ⟨_, rfl, .inl ⟨_, _, _, rfl, hmark, hlimit⟩⟩
    | aggregate => exact absurd rfl hkind
  · rintro ⟨c, rfl, ⟨mark, comparator, rest, rfl, hmark, hlimit⟩ | hlimit⟩
    · exact .marked hkind (.intro blank_nil hmark hlimit)
    · exact .bare hkind hlimit

/-- A clause with an aggregate. -/
lemma spellsClause_sequence_iff {clause : List Char} (htight : Tight clause) {e : Expression} :
    SpellsClause .numberSequence clause e ↔ ∃ a c text, e = .aggregate a c ∧
      clause = a.name.toList ++ text ∧ Marked text c := by
  constructor
  · intro h
    cases h with
    | bare hkind _ => exact absurd rfl hkind
    | marked hkind _ => exact absurd rfl hkind
    | aggregate hbefore hmarked =>
        rw [List.append_assoc] at htight
        rw [eq_nil_of_tight hbefore htight]
        exact ⟨_, _, _, rfl, rfl, hmarked⟩
  · rintro ⟨a, c, text, rfl, rfl, hmarked⟩
    exact .aggregate blank_nil hmarked

/-- A scalar clause starts with no word. -/
lemma selector_of_scalar {clause : List Char} (htight : Tight clause) {c : Comparison}
    (h : (∃ mark comparator rest, clause = mark ++ rest ∧ Mark mark comparator ∧
      Limit comparator rest c) ∨ Limit .equal clause c) :
    Clause.selector clause = .ok none := by
  refine selector_eq_ok_iff.mpr (.inl ⟨?_, rfl⟩)
  rcases h with ⟨mark, comparator, rest, rfl, hmark, -⟩ | hlimit
  · obtain ⟨a, as, rfl, ha⟩ := isLetter_of_mark hmark
    exact takeWhile_eq_nil ha
  · exact takeWhile_isLetter_of_limit hlimit htight

/-- After the name of an aggregate comes no letter, so the name is the whole word. -/
lemma split_after_name (a : Aggregate) {text : List Char} {c : Comparison} (h : Marked text c) :
    (a.name.toList ++ text).takeWhile Clause.isLetter = a.name.toList ∧
      (a.name.toList ++ text).dropWhile Clause.isLetter = text := by
  obtain ⟨b, bs, rfl, hb⟩ : ∃ b bs, text = b :: bs ∧ Clause.isLetter b = false := by
    obtain ⟨hbefore, hmark, -⟩ := h
    rename_i before mark rest comparator
    cases before with
    | nil =>
        obtain ⟨b, bs, rfl, hb⟩ := isLetter_of_mark hmark
        exact ⟨b, _, rfl, hb⟩
    | cons b bs => exact ⟨b, _, rfl, isLetter_of_isBlank (hbefore b List.mem_cons_self)⟩
  have hname : ∀ c ∈ a.name.toList, Clause.isLetter c = true := fun c hc => (name_chars a c hc).1
  refine Text.cut_run hname fun c hc => ?_
  cases hc
  exact hb

/-- What follows the name of an aggregate is read as a comparison that is written out. -/
lemma comparison_after_name {clause text : List Char} {c : Comparison} :
    Clause.comparison clause (trimStart text) true = .ok c ↔ Marked text c := by
  rw [comparison_eq_ok_iff]
  constructor
  · rintro (⟨mark, comparator, rest, heq, hmark, hlimit⟩ | ⟨h, -⟩)
    · obtain ⟨before, hbefore, htext⟩ := exists_blank_trimStart text
      rw [htext, heq, ← List.append_assoc]
      exact .intro hbefore hmark hlimit
    · cases h
  · rintro ⟨hbefore, hmark, hlimit⟩
    refine .inl ⟨_, _, _, ?_, hmark, hlimit⟩
    rw [List.append_assoc, trimStart_append hbefore]
    obtain ⟨a, as, rfl⟩ := List.exists_cons_of_ne_nil hmark.ne_nil
    exact trimStart_eq_self (by simpa using hmark.tight.1)

/-- A clause of a chain or the only one. -/
lemma clauseParse_eq_ok_iff {text : List Char} {kind : ValueKind} {e : Expression} :
    Clause.parse text kind = .ok e ↔ SpellsClause kind text e := by
  rw [← spellsClause_trim_iff]
  have htight := tight_trim text
  simp only [Clause.parse]
  generalize trim text = clause at htight ⊢
  by_cases hempty : clause = []
  · subst hempty
    rw [if_pos rfl]
    constructor
    · intro h
      cases h
    · intro h
      exact absurd rfl h.ne_nil
  rw [if_neg hempty, Except.bind_eq_ok_iff]
  by_cases hkind : kind = .numberSequence
  · subst hkind
    rw [spellsClause_sequence_iff htight]
    constructor
    · rintro ⟨a?, ha, h⟩
      rcases selector_eq_ok_iff.mp ha with ⟨-, rfl⟩ | ⟨a, rfl, hword⟩
      · cases h
      · obtain ⟨c, hc, h⟩ := Except.bind_eq_ok_iff.mp h
        cases h
        refine ⟨a, c, clause.dropWhile Clause.isLetter, rfl, ?_, comparison_after_name.mp hc⟩
        rw [← hword, List.takeWhile_append_dropWhile]
    · rintro ⟨a, c, rest, rfl, rfl, hmarked⟩
      obtain ⟨htake, hdrop⟩ := split_after_name a hmarked
      refine ⟨some a, selector_eq_ok_iff.mpr (.inr ⟨a, rfl, htake⟩), ?_⟩
      simp only [hdrop, comparison_after_name.mpr hmarked]
      rfl
  · rw [spellsClause_scalar_iff hkind htight]
    constructor
    · rintro ⟨a?, ha, h⟩
      cases a? with
      | none =>
          have h' : (Clause.comparison clause clause false).map Expression.comparison = .ok e := by
            cases kind with
            | numberSequence => exact absurd rfl hkind
            | text => exact h
            | number => exact h
          obtain ⟨c, hc, rfl⟩ := Except.map_eq_ok_iff.mp h'
          exact ⟨c, rfl, by simpa using comparison_eq_ok_iff.mp hc⟩
      | some a =>
          cases kind with
          | numberSequence => exact absurd rfl hkind
          | text => cases h
          | number => cases h
    · rintro ⟨c, rfl, hc⟩
      refine ⟨none, selector_of_scalar htight hc, ?_⟩
      have hread : Clause.comparison clause clause false = .ok c :=
        comparison_eq_ok_iff.mpr (by simpa using hc)
      cases kind with
      | numberSequence => exact absurd rfl hkind
      | text => simp only [hread]; rfl
      | number => simp only [hread]; rfl

/-! ## Chains -/

lemma mark_ne_nil (k : Connective) : k.mark.toList ≠ [] := by
  cases k <;> decide

/-- Where there are only clauses no connective starts, not even one that ends in what follows. -/
lemma not_infix_mark {kind : ValueKind} {text : List Char} {e : Expression}
    (h : SpellsClause kind text e) (k : Connective) :
    ¬ k.mark.toList <:+: text ++ k.mark.toList.dropLast := by
  obtain ⟨q, hq, hmark⟩ : ∃ q, (q = '&' ∨ q = '|') ∧ k.mark.toList = [q, q] := by
    cases k
    · exact ⟨'&', .inl rfl, rfl⟩
    · exact ⟨'|', .inr rfl, rfl⟩
  rw [hmark]
  intro hinfix
  have hcount := hinfix.sublist.count_le q
  have hnone := List.count_eq_zero.mpr (h.connective_notMem hq)
  simp [List.count_append, hnone] at hcount

lemma cutAt_clause {kind : ValueKind} {text : List Char} {e : Expression}
    (h : SpellsClause kind text e) (k : Connective) : cutAt k.mark.toList text = none :=
  cutAt_eq_none_iff.mpr fun hi =>
    not_infix_mark h k (hi.trans (List.prefix_append text _).isInfix)

lemma clauses_cons_eq_ok_iff {whole clause : List Char} {k : Connective} {kind : ValueKind}
    {rest : List (List Char)} {es : List Expression} :
    Expression.clauses whole k kind (clause :: rest) = .ok es ↔
      ∃ e later, es = e :: later ∧ SpellsClause kind clause e ∧
        Expression.clauses whole k kind rest = .ok later := by
  rw [Expression.clauses]
  by_cases hempty : trim clause = []
  · rw [if_pos hempty]
    constructor
    · intro h
      cases h
    · rintro ⟨e, later, -, he, -⟩
      exact absurd hempty (spellsClause_trim_iff.mpr he).ne_nil
  · rw [if_neg hempty, Except.bind_eq_ok_iff]
    constructor
    · rintro ⟨e, he, h⟩
      obtain ⟨later, hlater, h⟩ := Except.bind_eq_ok_iff.mp h
      cases h
      exact ⟨e, later, rfl, clauseParse_eq_ok_iff.mp he, hlater⟩
    · rintro ⟨e, later, rfl, he, hlater⟩
      refine ⟨e, clauseParse_eq_ok_iff.mpr he, ?_⟩
      simp only [hlater]
      rfl

/-- Cutting at a connective finds the clauses of a chain. -/
lemma clauses_eq_ok_iff {whole : List Char} {k : Connective} {kind : ValueKind}
    {text : List Char} {es : List Expression} :
    Expression.clauses whole k kind (piecesAt k.mark.toList (mark_ne_nil k) text) = .ok es ↔
      SpellsClauses k kind text es := by
  induction hn : text.length using Nat.strongRecOn generalizing text es with
  | ind n ih =>
  rw [piecesAt]
  split
  · next hcut =>
      rw [clauses_cons_eq_ok_iff]
      constructor
      · rintro ⟨e, later, rfl, he, hlater⟩
        cases hlater
        exact .one he
      · intro h
        cases h with
        | one he => exact ⟨_, _, rfl, he, rfl⟩
        | more he _ =>
            rw [cutAt_append (mark_ne_nil k) (not_infix_mark he k)] at hcut
            cases hcut
  · next before after hcut =>
      have hshort : after.length < n := by
        have hlen := length_of_cutAt hcut
        have hpos := List.length_pos_iff.mpr (mark_ne_nil k)
        omega
      rw [clauses_cons_eq_ok_iff]
      constructor
      · rintro ⟨e, later, rfl, he, hlater⟩
        rw [append_of_cutAt hcut]
        exact .more he ((ih _ hshort rfl).mp hlater)
      · intro h
        cases h with
        | one he =>
            rw [cutAt_clause he k] at hcut
            cases hcut
        | more he hes =>
            rw [cutAt_append (mark_ne_nil k) (not_infix_mark he k)] at hcut
            cases hcut
            exact ⟨_, _, rfl, he, (ih _ hshort rfl).mpr hes⟩

lemma length_pos_of_spellsClauses {k : Connective} {kind : ValueKind} {text : List Char}
    {es : List Expression} (h : SpellsClauses k kind text es) : 1 ≤ es.length := by
  cases h <;> simp

/-- A chain has two clauses or more exactly when its text holds its connective. -/
lemma two_le_length_iff {k : Connective} {kind : ValueKind} {text : List Char}
    {es : List Expression} (h : SpellsClauses k kind text es) :
    2 ≤ es.length ↔ holds k.mark.toList text = true := by
  cases h with
  | one he => simp [holds, cutAt_clause he k]
  | more he hes =>
      have hpos := length_pos_of_spellsClauses hes
      rw [holds, cutAt_append (mark_ne_nil k) (not_infix_mark he k)]
      simpa using hpos

/-- The other connective does not occur in a chain. -/
lemma not_holds_of_ne {k k' : Connective} (hk : k' ≠ k) {kind : ValueKind} {text : List Char}
    {es : List Expression} (h : SpellsClauses k kind text es) :
    holds k'.mark.toList text = false := by
  obtain ⟨q, hq, hmem, hnot⟩ : ∃ q, (q = '&' ∨ q = '|') ∧ q ∈ k'.mark.toList ∧
      q ∉ k.mark.toList := by
    cases k <;> cases k'
    · exact absurd rfl hk
    · exact ⟨'|', .inr rfl, by decide, by decide⟩
    · exact ⟨'&', .inl rfl, by decide, by decide⟩
    · exact absurd rfl hk
  have hfree : q ∉ text := by
    induction h with
    | one he => exact he.connective_notMem hq
    | more he _ ih =>
        simp only [List.mem_append, not_or]
        exact ⟨⟨he.connective_notMem hq, hnot⟩, ih⟩
  rw [← Bool.not_eq_true, holds_iff_infix]
  exact fun hi => hfree (hi.subset hmem)

/-! ## Expressions -/

lemma holds_eq_false_of_clause {kind : ValueKind} {text : List Char} {e : Expression}
    (h : SpellsClause kind text e) (k : Connective) : holds k.mark.toList text = false := by
  rw [holds, cutAt_clause h k]
  rfl

/-- The four cases of the reader: both connectives, one of them, or none. -/
lemma parse_eq (text : String) (kind : ValueKind) :
    Expression.parse text kind =
      if holds Connective.and.mark.toList text.toList then
        if holds Connective.or.mark.toList text.toList then
          faultAt text.toList .mixedConnectives
        else (Expression.clauses text.toList .and kind
          (piecesAt Connective.and.mark.toList (mark_ne_nil _) text.toList)).map (.chain .and)
      else
        if holds Connective.or.mark.toList text.toList then
          (Expression.clauses text.toList .or kind
            (piecesAt Connective.or.mark.toList (mark_ne_nil _) text.toList)).map (.chain .or)
        else Clause.parse text.toList kind := by
  have hand : Connective.and.mark.toList = ['&', '&'] := rfl
  have hor : Connective.or.mark.toList = ['|', '|'] := rfl
  simp only [Expression.parse, hand, hor]
  cases holds ['&', '&'] text.toList <;> cases holds ['|', '|'] text.toList <;> rfl

/-- The reader gives an expression exactly for the texts that spell it. -/
lemma parse_eq_ok_iff {text : String} {kind : ValueKind} {e : Expression} :
    Expression.parse text kind = .ok e ↔ Spells kind text.toList e := by
  rw [parse_eq]
  constructor
  · intro h
    split at h
    · next hand =>
        split at h
        · cases h
        · obtain ⟨es, hes, rfl⟩ := Except.map_eq_ok_iff.mp h
          have hes := clauses_eq_ok_iff.mp hes
          exact .chain hes ((two_le_length_iff hes).mpr hand)
    · split at h
      · next hor =>
          obtain ⟨es, hes, rfl⟩ := Except.map_eq_ok_iff.mp h
          have hes := clauses_eq_ok_iff.mp hes
          exact .chain hes ((two_le_length_iff hes).mpr hor)
      · exact .clause (clauseParse_eq_ok_iff.mp h)
  · intro h
    cases h with
    | clause he =>
        simp only [holds_eq_false_of_clause he, Bool.false_eq_true, if_false]
        exact clauseParse_eq_ok_iff.mpr he
    | @chain k es hes hlen =>
        have hown := (two_le_length_iff hes).mp hlen
        have hread : Expression.clauses text.toList k kind _ = .ok es :=
          clauses_eq_ok_iff.mpr hes
        cases k with
        | and =>
            have hother := not_holds_of_ne (show Connective.or ≠ .and by decide) hes
            rw [if_pos hown, if_neg (by simp [hother]), hread]
            rfl
        | or =>
            have hother := not_holds_of_ne (show Connective.and ≠ .or by decide) hes
            rw [if_neg (by simp [hother]), if_pos hown, hread]
            rfl

/-! ## Errors

Every fault is reported at the text, at one of its pieces between connectives, or at a trimmed
piece, and all of these are contiguous parts of the text. -/

/-- If a computation fails, then with a fault at a contiguous part of the text. -/
def FaultsIn {α : Type} (text : List Char) (x : Except ConstraintError α) : Prop :=
  ∀ err, x = .error err →
    ∃ fragment fault, err = .invalid (.ofList fragment) fault ∧ fragment <:+: text

section

variable {α β : Type} {text : List Char}

lemma faultsIn_ok (a : α) : FaultsIn text (.ok a : Except ConstraintError α) :=
  fun _ h => nomatch h

lemma faultsIn_faultAt {fragment : List Char} (h : fragment <:+: text) (fault : Fault) :
    FaultsIn text (faultAt fragment fault : Except ConstraintError α) := by
  intro err herr
  cases herr
  exact ⟨fragment, fault, rfl, h⟩

lemma FaultsIn.bind {x : Except ConstraintError α} {f : α → Except ConstraintError β}
    (hx : FaultsIn text x) (hf : ∀ a, FaultsIn text (f a)) : FaultsIn text (x >>= f) := by
  intro err herr
  cases x with
  | error e =>
      cases herr
      exact hx _ rfl
  | ok a => exact hf a err herr

lemma FaultsIn.map {x : Except ConstraintError α} (hx : FaultsIn text x) (f : α → β) :
    FaultsIn text (x.map f) := by
  intro err herr
  cases x with
  | error e =>
      cases herr
      exact hx _ rfl
  | ok a => cases herr

lemma FaultsIn.mono {text' : List Char} {x : Except ConstraintError α} (hx : FaultsIn text x)
    (h : text <:+: text') : FaultsIn text' x := by
  intro err herr
  obtain ⟨fragment, fault, heq, hinfix⟩ := hx err herr
  exact ⟨fragment, fault, heq, hinfix.trans h⟩

end

lemma faultsIn_number (clause text : List Char) (role : NumberRole) :
    FaultsIn clause (Clause.number clause text role) := by
  simp only [Clause.number]
  split
  · exact faultsIn_faultAt List.infix_rfl _
  · split
    · exact faultsIn_faultAt List.infix_rfl _
    · split
      · exact faultsIn_ok _
      · exact faultsIn_faultAt List.infix_rfl _

lemma faultsIn_tolerance (clause : List Char) (comparator : Comparator)
    (text? : Option (List Char)) : FaultsIn clause (Clause.tolerance clause comparator text?) := by
  cases text? with
  | none => exact faultsIn_ok _
  | some text =>
      simp only [Clause.tolerance]
      split
      · exact faultsIn_faultAt List.infix_rfl _
      · refine (faultsIn_number clause text _).bind fun x => ?_
        split
        · exact faultsIn_faultAt List.infix_rfl _
        · exact faultsIn_ok _

lemma faultsIn_comparison (clause text : List Char) (marked : Bool) :
    FaultsIn clause (Clause.comparison clause text marked) := by
  rw [comparison_eq_limit]
  split
  · exact faultsIn_faultAt List.infix_rfl _
  · exact (faultsIn_number clause _ _).bind fun _ =>
      (faultsIn_tolerance clause _ _).bind fun _ => faultsIn_ok _

lemma faultsIn_selector (clause : List Char) : FaultsIn clause (Clause.selector clause) := by
  simp only [Clause.selector]
  split
  · exact faultsIn_ok _
  · split
    · exact faultsIn_ok _
    · exact faultsIn_faultAt List.infix_rfl _

lemma isInfix_trim (text : List Char) : trim text <:+: text := by
  obtain ⟨before, after, -, -, h⟩ := padded_trim text
  exact ⟨before, after, h.symm⟩

lemma faultsIn_clauseParse (text : List Char) (kind : ValueKind) :
    FaultsIn text (Clause.parse text kind) := by
  simp only [Clause.parse]
  split
  · exact faultsIn_faultAt List.infix_rfl _
  · refine FaultsIn.mono ?_ (isInfix_trim text)
    refine (faultsIn_selector _).bind fun a? => ?_
    split
    · exact faultsIn_faultAt List.infix_rfl _
    · exact (faultsIn_comparison _ _ _).bind fun _ => faultsIn_ok _
    · exact faultsIn_faultAt List.infix_rfl _
    · exact (faultsIn_comparison _ _ _).bind fun _ => faultsIn_ok _

lemma faultsIn_clauses {whole : List Char} (k : Connective) (kind : ValueKind)
    {pieces : List (List Char)} (h : ∀ piece ∈ pieces, piece <:+: whole) :
    FaultsIn whole (Expression.clauses whole k kind pieces) := by
  induction pieces with
  | nil => exact faultsIn_ok _
  | cons piece rest ih =>
      rw [Expression.clauses]
      split
      · exact faultsIn_faultAt List.infix_rfl _
      · refine ((faultsIn_clauseParse piece kind).mono (h piece List.mem_cons_self)).bind
          fun e => ?_
        exact (ih fun p hp => h p (List.mem_cons_of_mem _ hp)).bind fun _ => faultsIn_ok _

lemma infix_of_mem_piecesAt {token : List Char} (hne : token ≠ []) {text piece : List Char}
    (h : piece ∈ piecesAt token hne text) : piece <:+: text := by
  induction hn : text.length using Nat.strongRecOn generalizing text with
  | ind n ih =>
  rw [piecesAt] at h
  split at h
  · obtain rfl := List.mem_singleton.mp h
    exact List.infix_rfl
  · next before after hcut =>
      have htext := append_of_cutAt hcut
      rcases List.mem_cons.mp h with rfl | h
      · exact ⟨[], token ++ after, by simp [htext]⟩
      · have hlen := length_of_cutAt hcut
        have hpos := List.length_pos_iff.mpr hne
        refine (ih after.length (by omega) h rfl).trans ?_
        exact ⟨before ++ token, [], by simp [htext]⟩

lemma faultsIn_parse (text : String) (kind : ValueKind) :
    FaultsIn text.toList (Expression.parse text kind) := by
  rw [parse_eq]
  split
  · split
    · exact faultsIn_faultAt List.infix_rfl _
    · exact (faultsIn_clauses _ _ fun _ h => infix_of_mem_piecesAt _ h).map _
  · split
    · exact (faultsIn_clauses _ _ fun _ h => infix_of_mem_piecesAt _ h).map _
    · exact faultsIn_clauseParse _ _

/-- **The reader accepts exactly the grammar.**  A text is read as an expression if and only if it
spells that expression for the kind of values, so it spells at most one.  Every other text is an
error, at a contiguous part of the text. -/
theorem parse_spells (text : String) (kind : ValueKind) :
    (∀ e, Expression.parse text kind = .ok e ↔ Spells kind text.toList e) ∧
      ((∃! e, Spells kind text.toList e) ∨
        ((∀ e, ¬ Spells kind text.toList e) ∧ ∃ fragment fault,
          Expression.parse text kind = .error (.invalid fragment fault) ∧
            fragment.toList <:+: text.toList)) := by
  refine ⟨fun e => parse_eq_ok_iff, ?_⟩
  cases hparse : Expression.parse text kind with
  | ok e =>
      refine .inl ⟨e, parse_eq_ok_iff.mp hparse, fun e' he' => ?_⟩
      rw [parse_eq_ok_iff.mpr he'] at hparse
      injection hparse
  | error err =>
      refine .inr ⟨fun e he => ?_, ?_⟩
      · rw [parse_eq_ok_iff.mpr he] at hparse
        cases hparse
      · obtain ⟨fragment, fault, rfl, hinfix⟩ := faultsIn_parse text kind err hparse
        exact ⟨_, fault, rfl, by simpa using hinfix⟩

end RadarConform.Grammar
