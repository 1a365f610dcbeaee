import RadarConform.Constraint.Reader
import RadarConform.Proofs.Number.Numeral
import RadarConform.Proofs.Text.Cut

/-!
# The grammar of numeric constraints

    expression := clause (connective clause)*      one connective throughout
    clause     := [aggregate] comparator number ["+-" number]
    comparator := "==" | "=" | ">=" | "<=" | ">" | "<"

White space may stand around every token.  An aggregate is written for sequences and for nothing
else; where there is none, the comparator may be left out and then means equality.  A tolerance
follows equality only and is not negative.

* `Numeral`, `Mark`, `Limit`, `Marked` — the parts of a clause.
* `SpellsClause`, `SpellsClauses`, `Spells` — the texts of clauses, of chains and of expressions.

The grammar allows padding everywhere and the reader trims, so each relation comes with two facts:
it is closed under padding (`Limit.pad`, …), and every text of it is a **tight** text of it with
padding (`Limit.exists_tight`, …).  Together: a text spells a clause exactly when its trimmed form
does (`spellsClause_trim_iff`).
-/

namespace RadarConform.Grammar

open Text

/-! ## The relations -/

/-- A finite number with white space around it. -/
inductive Numeral : List Char → Number → Prop
  | intro {token text : List Char} {x : Number} : Padded token text →
      Number.ofText? token = some x → x.isFinite = true → Numeral text x

/-- The marks of comparators. -/
inductive Mark : List Char → Comparator → Prop
  | doubleEqual : Mark ['=', '='] .equal
  | equal : Mark ['='] .equal
  | atLeast : Mark ['>', '='] .atLeast
  | atMost : Mark ['<', '='] .atMost
  | greater : Mark ['>'] .greater
  | less : Mark ['<'] .less

/-- What follows a comparator: a threshold, and after equality possibly a tolerance. -/
inductive Limit : Comparator → List Char → Comparison → Prop
  | exact {comparator : Comparator} {text : List Char} {x : Number} : Numeral text x →
      Limit comparator text ⟨comparator, x, none⟩
  | within {text text' : List Char} {x y : Number} : Numeral text x → Numeral text' y →
      y.lt .zero = false → Limit .equal (text ++ ['+', '-'] ++ text') ⟨.equal, x, some y⟩

/-- A comparison whose comparator is written. -/
inductive Marked : List Char → Comparison → Prop
  | intro {before mark rest : List Char} {comparator : Comparator} {c : Comparison} :
      Blank before → Mark mark comparator → Limit comparator rest c →
      Marked (before ++ mark ++ rest) c

/-- The texts of a clause for values of a kind. -/
inductive SpellsClause : ValueKind → List Char → Expression → Prop
  | bare {kind : ValueKind} {text : List Char} {c : Comparison} : kind ≠ .numberSequence →
      Limit .equal text c → SpellsClause kind text (.comparison c)
  | marked {kind : ValueKind} {text : List Char} {c : Comparison} : kind ≠ .numberSequence →
      Marked text c → SpellsClause kind text (.comparison c)
  | aggregate {before text : List Char} {a : Aggregate} {c : Comparison} : Blank before →
      Marked text c →
      SpellsClause .numberSequence (before ++ a.name.toList ++ text) (.aggregate a c)

/-- The texts of one clause or of several with the same connective between them. -/
inductive SpellsClauses (k : Connective) (kind : ValueKind) :
    List Char → List Expression → Prop
  | one {text : List Char} {e : Expression} : SpellsClause kind text e →
      SpellsClauses k kind text [e]
  | more {text rest : List Char} {e : Expression} {es : List Expression} :
      SpellsClause kind text e → SpellsClauses k kind rest es →
      SpellsClauses k kind (text ++ k.mark.toList ++ rest) (e :: es)

/-- The texts of an expression for values of a kind.  A single clause stands for itself; two or
more make a chain, whose operands are the clauses in the order of the text. -/
inductive Spells (kind : ValueKind) : List Char → Expression → Prop
  | clause {text : List Char} {e : Expression} : SpellsClause kind text e → Spells kind text e
  | chain {text : List Char} {k : Connective} {es : List Expression} :
      SpellsClauses k kind text es → 2 ≤ es.length → Spells kind text (.chain k es)

/-! ## Characters

The characters of a clause are known, and neither a connective nor, inside a number, a comparator
or the mark of a tolerance is among them. -/

/-- White space and the characters of numerals. -/
lemma Numeral.chars {text : List Char} {x : Number} (h : Numeral text x) :
    ∀ c ∈ text, isBlank c = true ∨ Number.isNumeralChar c = true := by
  obtain ⟨⟨before, after, hbefore, hafter, rfl⟩, htoken, hfinite⟩ := h
  intro c hc
  simp only [List.mem_append] at hc
  rcases hc with (hc | hc) | hc
  · exact .inl (hbefore c hc)
  · exact .inr ((Number.numeral_chars htoken hfinite).2.1 c hc)
  · exact .inl (hafter c hc)

lemma Numeral.unsplit {text : List Char} {x : Number} (h : Numeral text x) :
    Number.Unsplit text := by
  obtain ⟨⟨before, after, hbefore, hafter, rfl⟩, htoken, hfinite⟩ := h
  rw [List.append_assoc]
  refine ((Number.numeral_chars htoken hfinite).2.2.append_right fun hc => ?_).append fun hc => ?_
  · exact absurd (hafter _ hc) (by decide)
  · exact absurd (hbefore _ hc) (by decide)

/-- The characters of a limit: those of its numbers, the mark of a tolerance being among them. -/
lemma Limit.chars {comparator : Comparator} {text : List Char} {c : Comparison}
    (h : Limit comparator text c) :
    ∀ a ∈ text, isBlank a = true ∨ Number.isNumeralChar a = true := by
  cases h with
  | exact hx => exact hx.chars
  | within hx hy _ =>
      intro a ha
      simp only [List.mem_append, List.mem_cons, List.not_mem_nil, or_false] at ha
      rcases ha with (ha | rfl | rfl) | ha
      · exact hx.chars a ha
      · exact .inr rfl
      · exact .inr rfl
      · exact hy.chars a ha

/-- White space and characters of numerals and nothing else. -/
lemma notMem_of_chars {text : List Char}
    (h : ∀ c ∈ text, isBlank c = true ∨ Number.isNumeralChar c = true) {c : Char}
    (hblank : isBlank c = false) (hnumeral : Number.isNumeralChar c = false) : c ∉ text := by
  intro hc
  rcases h c hc with h | h
  · rw [hblank] at h; cases h
  · rw [hnumeral] at h; cases h

lemma Mark.ne_nil {mark : List Char} {comparator : Comparator} (h : Mark mark comparator) :
    mark ≠ [] := by
  cases h <;> simp

lemma Mark.tight {mark : List Char} {comparator : Comparator} (h : Mark mark comparator) :
    Tight mark := by
  have hall : mark.all (fun c => !isBlank c) = true := by
    cases h <;> decide
  exact tight_of_forall fun c hc => by simpa using List.all_eq_true.mp hall c hc

/-! ## Padding -/

lemma Numeral.pad {text text' : List Char} {x : Number} (h : Numeral text x)
    (hpad : Padded text text') : Numeral text' x := by
  obtain ⟨htoken, hx, hfinite⟩ := h
  exact ⟨htoken.trans hpad, hx, hfinite⟩

lemma Limit.pad {comparator : Comparator} {text text' : List Char} {c : Comparison}
    (h : Limit comparator text c) (hpad : Padded text text') : Limit comparator text' c := by
  cases h with
  | exact hx => exact .exact (hx.pad hpad)
  | @within t u x y hx hy hneg =>
      obtain ⟨before, after, hbefore, hafter, rfl⟩ := hpad
      have hx' : Numeral (before ++ t) x := hx.pad ⟨before, [], hbefore, blank_nil, by simp⟩
      have hy' : Numeral (u ++ after) y := hy.pad ⟨[], after, blank_nil, hafter, by simp⟩
      simpa using Limit.within hx' hy' hneg

lemma Marked.pad {text text' : List Char} {c : Comparison} (h : Marked text c)
    (hpad : Padded text text') : Marked text' c := by
  obtain ⟨hbefore, hmark, hlimit⟩ := h
  obtain ⟨before, after, hbefore', hafter, rfl⟩ := hpad
  have hlimit' := hlimit.pad ⟨[], after, blank_nil, hafter, rfl⟩
  simpa using Marked.intro (hbefore'.append hbefore) hmark hlimit'

lemma SpellsClause.pad {kind : ValueKind} {text text' : List Char} {e : Expression}
    (h : SpellsClause kind text e) (hpad : Padded text text') : SpellsClause kind text' e := by
  cases h with
  | bare hkind hlimit => exact .bare hkind (hlimit.pad hpad)
  | marked hkind hmarked => exact .marked hkind (hmarked.pad hpad)
  | @aggregate before _ a c hbefore hmarked =>
      obtain ⟨before', after, hbefore', hafter, rfl⟩ := hpad
      have hmarked' := hmarked.pad ⟨[], after, blank_nil, hafter, rfl⟩
      simpa using SpellsClause.aggregate (a := a) (hbefore'.append hbefore) hmarked'

/-! ## Tight texts -/

lemma Numeral.exists_tight {text : List Char} {x : Number} (h : Numeral text x) :
    ∃ token, Padded token text ∧ Tight token ∧ token ≠ [] ∧ Numeral token x := by
  obtain ⟨hpad, htoken, hfinite⟩ := h
  obtain ⟨⟨c, rest, hcons, -⟩, hchars, -⟩ := Number.numeral_chars htoken hfinite
  refine ⟨_, hpad, tight_of_forall fun a ha => ?_, by simp [hcons], padded_self _, htoken, hfinite⟩
  exact Number.isBlank_of_isNumeralChar (hchars a ha)

lemma Limit.exists_tight {comparator : Comparator} {text : List Char} {c : Comparison}
    (h : Limit comparator text c) :
    ∃ token, Padded token text ∧ Tight token ∧ token ≠ [] ∧ Limit comparator token c := by
  cases h with
  | exact hx =>
      obtain ⟨token, hpad, htight, hne, hx⟩ := hx.exists_tight
      exact ⟨token, hpad, htight, hne, .exact hx⟩
  | within hx hy hneg =>
      obtain ⟨t, ⟨b, a, hb, ha, rfl⟩, ht, htne, hx⟩ := hx.exists_tight
      obtain ⟨u, ⟨b', a', hb', ha', rfl⟩, hu, hune, hy⟩ := hy.exists_tight
      have hx' : Numeral (t ++ a) _ := hx.pad ⟨[], a, blank_nil, ha, rfl⟩
      have hy' : Numeral (b' ++ u) _ := hy.pad ⟨b', [], hb', blank_nil, by simp⟩
      refine ⟨t ++ (a ++ ['+', '-'] ++ b') ++ u, ⟨b, a', hb, ha', by simp⟩,
        tight_append ht hu htne hune, by simp [htne], ?_⟩
      simpa using Limit.within hx' hy' hneg

lemma Marked.exists_tight {text : List Char} {c : Comparison} (h : Marked text c) :
    ∃ token, Padded token text ∧ Tight token ∧ token ≠ [] ∧
      ∃ mark comparator rest, token = mark ++ rest ∧ Mark mark comparator ∧
        Limit comparator rest c := by
  obtain ⟨hbefore, hmark, hlimit⟩ := h
  obtain ⟨token, ⟨b, a, hb, ha, rfl⟩, htight, hne, hlimit⟩ := hlimit.exists_tight
  refine ⟨_ ++ b ++ token, ⟨_, a, hbefore, ha, by simp⟩,
    tight_append hmark.tight htight hmark.ne_nil hne, by simp [hne], _, _, b ++ token, by simp, hmark,
    hlimit.pad ⟨b, [], hb, blank_nil, by simp⟩⟩

lemma name_chars (a : Aggregate) :
    ∀ c ∈ a.name.toList, Clause.isLetter c = true ∧ isBlank c = false := by
  have hall : a.name.toList.all (fun c => Clause.isLetter c && !isBlank c) = true := by
    cases a <;> decide
  intro c hc
  simpa using List.all_eq_true.mp hall c hc

lemma name_ne_nil (a : Aggregate) : a.name.toList ≠ [] := by
  cases a <;> decide

/-- **A text spells a clause exactly when its trimmed form does.** -/
lemma spellsClause_trim_iff {kind : ValueKind} {text : List Char} {e : Expression} :
    SpellsClause kind (trim text) e ↔ SpellsClause kind text e := by
  refine ⟨fun h => h.pad (padded_trim text), fun h => ?_⟩
  suffices h' : ∃ token, Padded token text ∧ Tight token ∧ SpellsClause kind token e by
    obtain ⟨token, hpad, htight, h'⟩ := h'
    rwa [trim_eq_of_padded hpad htight]
  cases h with
  | bare hkind hlimit =>
      obtain ⟨token, hpad, htight, -, hlimit⟩ := hlimit.exists_tight
      exact ⟨token, hpad, htight, .bare hkind hlimit⟩
  | marked hkind hmarked =>
      obtain ⟨token, hpad, htight, -, mark, comparator, rest, rfl, hmark, hlimit⟩ :=
        hmarked.exists_tight
      exact ⟨_, hpad, htight, .marked hkind (.intro blank_nil hmark hlimit)⟩
  | @aggregate before _ a c hbefore hmarked =>
      obtain ⟨token, ⟨b, a', hb, ha, rfl⟩, htight, hne, mark, comparator, rest, rfl, hmark,
        hlimit⟩ := hmarked.exists_tight
      refine ⟨a.name.toList ++ b ++ (mark ++ rest), ⟨before, a', hbefore, ha, by simp⟩,
        tight_append (tight_of_forall fun c hc => (name_chars a c hc).2) htight (name_ne_nil a)
          hne, ?_⟩
      simpa using SpellsClause.aggregate (a := a) blank_nil (.intro hb hmark hlimit)

lemma SpellsClause.ne_nil {kind : ValueKind} {text : List Char} {e : Expression}
    (h : SpellsClause kind text e) : text ≠ [] := by
  cases h with
  | bare _ hlimit =>
      obtain ⟨token, ⟨before, after, -, -, rfl⟩, -, hne, -⟩ := hlimit.exists_tight
      simp [hne]
  | marked _ hmarked =>
      obtain ⟨-, hmark, -⟩ := hmarked
      simp [hmark.ne_nil]
  | @aggregate _ _ a _ _ _ =>
      exact List.append_ne_nil_of_left_ne_nil
        (List.append_ne_nil_of_right_ne_nil _ (name_ne_nil a)) _

/-- No character of a clause belongs to a connective. -/
lemma SpellsClause.connective_notMem {kind : ValueKind} {text : List Char} {e : Expression}
    (h : SpellsClause kind text e) {c : Char} (hc : c = '&' ∨ c = '|') : c ∉ text := by
  have hnumeral : isBlank c = false ∧ Number.isNumeralChar c = false := by
    rcases hc with rfl | rfl <;> decide
  have hlimit : ∀ {comparator rest d}, Limit comparator rest d → c ∉ rest := by
    intro comparator rest d hlimit
    exact notMem_of_chars hlimit.chars hnumeral.1 hnumeral.2
  have hblank : ∀ {before}, Blank before → c ∉ before := by
    intro before hbefore hmem
    rw [hbefore c hmem] at hnumeral
    cases hnumeral.1
  have hmarked : ∀ {rest d}, Marked rest d → c ∉ rest := by
    rintro rest d ⟨hbefore, hmark, hrest⟩
    simp only [List.mem_append, not_or]
    refine ⟨⟨hblank hbefore, ?_⟩, hlimit hrest⟩
    rcases hc with rfl | rfl <;> cases hmark <;> decide
  cases h with
  | bare _ h => exact hlimit h
  | marked _ h => exact hmarked h
  | @aggregate _ _ a _ hbefore h =>
      simp only [List.mem_append, not_or]
      refine ⟨⟨hblank hbefore, ?_⟩, hmarked h⟩
      rcases hc with rfl | rfl <;> cases a <;> decide

end RadarConform.Grammar
