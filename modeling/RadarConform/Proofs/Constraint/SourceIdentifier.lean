import RadarConform.Proofs.Comparison.NaiveWalk
import RadarConform.Proofs.Pattern.LiteralSize
import RadarConform.Proofs.Text.Cut
import RadarConform.Proofs.Text.Pieces
import RadarConform.Proofs.Text.Trim
import RadarConform.Proofs.WholeText

/-!
# The verdict on a source identifier

A source identifier satisfies its constraint when the pattern holds of its normal form and the
tokens of the normal form are well formed.  The normal form is made by an automaton that remembers
whether a comma came last, and the tokens are tested by a chain of cuts; both are described here
without the automaton and the cuts.

* `toList_normalize` — **the normal form has `","` for every `", "`**, replaced in one pass.
* `check_eq_ok_iff` — no token is complained of exactly when all of them are well formed.
* `exists_outcome` — the verdict, on every source, of a constraint that is read.
* `Lists.normalize_eq` — a space after a comma of a list is lost in the normal form.
* `verdict_exact` — **the exact verdict**.  That the pattern spans the whole normal form
  (`ForWholeLists`) is so of the constraints that are patterns by themselves, and of no other
  constraint that finds a list of well-formed tokens.
* `not_forWholeLists_reentering` — a constraint of which it is not so.
-/

namespace RadarConform.SourceIdentifier

open Text

/-! ## The normal form -/

/-- A text with `","` for every `", "`, replaced in one pass from left to right. -/
def unspaced (cs : List Char) : List Char := replaced (List.cons_ne_nil ',' [' ']) [','] cs

@[simp] lemma unspaced_nil : unspaced [] = [] := replaced_nil _ _

@[simp] lemma unspaced_comma_space (cs : List Char) :
    unspaced (',' :: ' ' :: cs) = ',' :: unspaced cs :=
  replaced_append (List.cons_ne_nil ',' [' ']) [','] cs

lemma unspaced_comma {cs : List Char} (h : cs.head? ≠ some ' ') :
    unspaced (',' :: cs) = ',' :: unspaced cs := by
  refine replaced_cons _ _ fun ⟨rest, hrest⟩ => h ?_
  cases hrest
  rfl

lemma unspaced_cons {c : Char} (h : c ≠ ',') (cs : List Char) :
    unspaced (c :: cs) = c :: unspaced cs := by
  refine replaced_cons _ _ fun ⟨rest, hrest⟩ => h ?_
  cases hrest
  rfl

lemma unspaced_append {cs : List Char} (h : ',' ∉ cs) (ds : List Char) :
    unspaced (cs ++ ds) = cs ++ unspaced ds := by
  induction cs with
  | nil => rfl
  | cons c cs ih =>
      rw [List.mem_cons, not_or] at h
      rw [List.cons_append, unspaced_cons (Ne.symm h.1), ih h.2, List.cons_append]

/-- The automaton replaces.  What it does after a comma is what it does to the text with the comma
still in front, so the two states are described together. -/
lemma normalizeFrom_eq (cs : List Char) :
    normalizeFrom false cs = unspaced cs ∧
      ',' :: normalizeFrom true cs = unspaced (',' :: cs) := by
  induction cs with
  | nil =>
      have hcomma : unspaced [','] = ',' :: unspaced [] := unspaced_comma (by simp)
      rw [hcomma, unspaced_nil]
      exact ⟨rfl, rfl⟩
  | cons c cs ih =>
      have hfalse : normalizeFrom false (c :: cs) = unspaced (c :: cs) := by
        rw [normalizeFrom, Bool.false_and, if_neg Bool.false_ne_true]
        by_cases hc : c = ','
        · subst hc
          exact ih.2
        · rw [beq_false_of_ne hc, ih.1, unspaced_cons hc]
      refine ⟨hfalse, ?_⟩
      by_cases hc : c = ' '
      · subst hc
        rw [unspaced_comma_space, ← ih.1]
        rfl
      · have hkept : normalizeFrom true (c :: cs) = normalizeFrom false (c :: cs) := by
          simp [normalizeFrom, hc]
        rw [hkept, hfalse, unspaced_comma (by simpa using hc)]

/-- **The normal form** is the text with `","` for every `", "`. -/
lemma toList_normalize (source : String) :
    (normalize source).toList = unspaced source.toList := by
  rw [normalize, String.toList_ofList, (normalizeFrom_eq _).1]

/-! ## Tokens -/

/-- The number of a weather station: 5 or 7 ASCII digits. -/
def StationNumber (cs : List Char) : Prop :=
  (∀ c ∈ cs, '0' ≤ c ∧ c ≤ '9') ∧ (cs.length = 5 ∨ cs.length = 7)

lemma isStationNumber_iff {cs : List Char} : isStationNumber cs = true ↔ StationNumber cs := by
  simp [isStationNumber, StationNumber, Decimal.isDigit]

/-- A token has a tag before its first colon and a value after it, neither of them blank, and the
value of the tag `WMO` is the number of a station. -/
def WellFormed (token : List Char) : Prop :=
  ∃ tag value, token = tag ++ ':' :: value ∧ ':' ∉ tag ∧ ¬ Blank tag ∧ ¬ Blank value ∧
    (trim tag = ['W', 'M', 'O'] → StationNumber (trim value))

/-- The first colon is where a token is cut. -/
lemma cutOnce_colon_iff {token tag value : List Char} :
    cutOnce (· == ':') token = some (tag, value) ↔ token = tag ++ ':' :: value ∧ ':' ∉ tag := by
  rw [cutOnce_eq_some_iff]
  constructor
  · rintro ⟨c, hc, rfl, htag⟩
    rw [beq_iff_eq] at hc
    subst hc
    refine ⟨rfl, fun hmem => ?_⟩
    simpa using htag ':' hmem
  · rintro ⟨rfl, htag⟩
    exact ⟨':', beq_self_eq_true ':', rfl, free_of_notMem htag⟩

lemma tokenFault?_eq_none_iff {token : List Char} :
    tokenFault? token = none ↔ WellFormed token := by
  simp only [WellFormed, ← and_assoc, ← cutOnce_colon_iff]
  rw [tokenFault?]
  cases hcut : cutOnce (· == ':') token with
  | none => simp
  | some parts =>
      obtain ⟨tag, value⟩ := parts
      simp only [trim_eq_nil_iff, Option.some.injEq, Prod.mk.injEq]
      constructor
      · intro h
        split_ifs at h with hblank hstation
        rw [not_or] at hblank
        refine ⟨tag, value, ⟨⟨⟨rfl, rfl⟩, hblank.1⟩, hblank.2⟩, fun hwmo => ?_⟩
        simpa [hwmo, isStationNumber_iff] using hstation
      · rintro ⟨_, _, ⟨⟨⟨rfl, rfl⟩, htag⟩, hvalue⟩, hstation⟩
        have hnumber : ¬ (trim tag = ['W', 'M', 'O'] ∧ (!isStationNumber (trim value)) = true) := by
          rintro ⟨hwmo, hnone⟩
          simp [isStationNumber_iff.mpr (hstation hwmo)] at hnone
        rw [if_neg (not_or.mpr ⟨htag, hvalue⟩), if_neg hnumber]

/-- A list of tokens with commas between them, all of them well formed. -/
def WellFormedList (cs : List Char) : Prop := ∀ token ∈ pieces (· == ',') cs, WellFormed token

lemma check_eq_ok_iff {s : String} : check s = .ok () ↔ WellFormedList s.toList := by
  have hfind : (pieces (· == ',') s.toList).findSome? (fun t => (tokenFault? t).map (t, ·)) = none ↔
      WellFormedList s.toList := by
    simp only [List.findSome?_eq_none_iff, Option.map_eq_none_iff, tokenFault?_eq_none_iff,
      WellFormedList]
  rw [← hfind, check]
  cases (pieces (· == ',') s.toList).findSome? (fun t => (tokenFault? t).map (t, ·)) with
  | none => simp
  | some fault => simp

/-! ## The verdict -/

variable {constraint : String} {q : Pattern}

/-- A constraint that is read has a verdict on every source: its pattern is found in the normal
form, and the tokens of the normal form are well formed. -/
lemma exists_outcome (hq : Pattern.compiled? constraint = some q) (info : Bool) (source : String) :
    ∃ o, (evaluate info source constraint).outcome = .ok o ∧
      (o.matched = true ↔
        q.found (unspaced source.toList) = true ∧ WellFormedList (unspaced source.toList)) := by
  have hparse : Constraint.parse constraint .text = .ok ⟨constraint, .text, .pattern q⟩ :=
    WholeText.parse_eq_ok_iff.mpr ⟨q, hq, rfl⟩
  obtain ⟨o, ho, hmatched⟩ := WholeText.outcome_eq constraint (normalize source) q
  rw [Comparison.outcome_sourceIdentifier_evaluate, Comparison.Naive.sourceVerdict, hparse]
  simp only [Except.ok_bind, ho, ← toList_normalize, ← hmatched, ← check_eq_ok_iff]
  cases hfound : o.matched with
  | false => exact ⟨o, rfl, by simp [hfound]⟩
  | true =>
      cases hcheck : check (normalize source) with
      | ok => exact ⟨o, rfl, by simp [hfound]⟩
      | error e => exact ⟨_, rfl, by simp [Outcome.fail]⟩

/-- A constraint that is not read is the error, on every source. -/
lemma outcome_of_unread {e : ConstraintError} (h : Constraint.parse constraint .text = .error e)
    (info : Bool) (source : String) : (evaluate info source constraint).outcome = .error e := by
  rw [Comparison.outcome_sourceIdentifier_evaluate, Comparison.Naive.sourceVerdict, h]
  rfl

/-- There is no other error. -/
lemma exists_error_iff (info : Bool) (source constraint : String) :
    (∃ e, (evaluate info source constraint).outcome = .error e) ↔
      ¬ ∃ c, Constraint.parse constraint .text = .ok c := by
  cases hparse : Constraint.parse constraint .text with
  | error e => simp [outcome_of_unread hparse]
  | ok c =>
      obtain ⟨q, hq, -⟩ := WholeText.parse_eq_ok_iff.mp hparse
      obtain ⟨o, ho, -⟩ := exists_outcome hq info source
      simp [ho]

/-- Two sources with one normal form satisfy the same constraints. -/
lemma matched_congr {s t : String} (h : normalize s = normalize t) (info : Bool)
    (constraint : String) :
    (evaluate info s constraint).outcome.map (·.matched) =
      (evaluate info t constraint).outcome.map (·.matched) := by
  cases hparse : Constraint.parse constraint .text with
  | error e => rw [outcome_of_unread hparse, outcome_of_unread hparse]
  | ok c =>
      obtain ⟨q, hq, -⟩ := WholeText.parse_eq_ok_iff.mp hparse
      obtain ⟨o, ho, hmatched⟩ := exists_outcome hq info s
      obtain ⟨o', ho', hmatched'⟩ := exists_outcome hq info t
      rw [← toList_normalize, h, toList_normalize] at hmatched
      rw [ho, ho', Except.map_ok_eq, Except.map_ok_eq,
        Bool.eq_iff_iff.mpr (hmatched.trans hmatched'.symm)]

/-! ## Spaces after commas -/

/-- A text lists tokens if it has a comma between neighbours and there may be a space after it. -/
inductive Lists : List String → String → Prop
  | none : Lists [] ""
  | single (token : String) : Lists [token] token
  | comma (token : String) {next : String} {rest : List String} {text : String} :
      Lists (next :: rest) text → Lists (token :: next :: rest) (token ++ "," ++ text)
  | space (token : String) {next : String} {rest : List String} {text : String} :
      Lists (next :: rest) text → Lists (token :: next :: rest) (token ++ ", " ++ text)

lemma lists_joined (tokens : List String) : Lists tokens (joined "," tokens) := by
  induction tokens with
  | nil => exact .none
  | cons token rest ih =>
      cases rest with
      | nil => exact .single token
      | cons next rest => exact .comma token ih

/-- A list starts with a space only if its first token does. -/
lemma Lists.head?_ne_space {token : String} {rest : List String} {text : String}
    (h : Lists (token :: rest) text) (htoken : token.toList.head? ≠ some ' ') :
    text.toList.head? ≠ some ' ' := by
  cases htext : token.toList with
  | nil =>
      cases h with
      | single => exact htoken
      | comma | space => simp [htext]
  | cons c cs =>
      rw [htext] at htoken
      cases h with
      | single => rwa [htext]
      | comma | space => simpa [htext] using htoken

/-- A space after a comma is lost, and nothing else is. -/
lemma Lists.normalize_eq {tokens : List String} {text : String} (h : Lists tokens text)
    (hcomma : ∀ token ∈ tokens, ',' ∉ token.toList)
    (hspace : ∀ token ∈ tokens.tail, token.toList.head? ≠ some ' ') :
    normalize text = joined "," tokens := by
  rw [← String.toList_inj, toList_normalize]
  induction h with
  | none => exact unspaced_nil
  | single token =>
      have htoken := unspaced_append (hcomma token List.mem_cons_self) []
      rwa [unspaced_nil, List.append_nil] at htoken
  | @comma token next rest text hrest ih =>
      rw [List.forall_mem_cons] at hcomma
      rw [List.tail_cons, List.forall_mem_cons] at hspace
      have hstart := hrest.head?_ne_space hspace.1
      simp [joined, unspaced_append hcomma.1, unspaced_comma hstart, ih hcomma.2 hspace.2]
  | @space token next rest text hrest ih =>
      rw [List.forall_mem_cons] at hcomma
      rw [List.tail_cons, List.forall_mem_cons] at hspace
      simp [joined, unspaced_append hcomma.1, ih hcomma.2 hspace.2]

/-! ## Whole lists -/

/-- The constraint is an error exactly when it is not read, and matches the sources whose normal
form it spans as a whole and lists well-formed tokens. -/
def ForWholeLists (constraint : String) : Prop :=
  ∀ (info : Bool) (source : String),
    ((∃ e, (evaluate info source constraint).outcome = .error e) ↔
        ¬ ∃ c, Constraint.parse constraint .text = .ok c) ∧
      ∀ o, (evaluate info source constraint).outcome = .ok o →
        (o.matched = true ↔
          (∃ p, Pattern.parse? constraint.toList = some p ∧ p.Fits (unspaced source.toList)) ∧
            WellFormedList (unspaced source.toList))

/-- A constraint is for whole lists unless it is read without being a pattern and finds a list. -/
lemma forWholeLists_iff : ForWholeLists constraint ↔
    ∀ q, Pattern.compiled? constraint = some q →
      (∃ p, Pattern.parse? constraint.toList = some p) ∨
        ∀ source : String, q.found (unspaced source.toList) = true →
          ¬ WellFormedList (unspaced source.toList) := by
  constructor
  · intro h q hq
    refine or_iff_not_imp_right.mpr fun hfound => ?_
    push Not at hfound
    obtain ⟨source, hfound, hlist⟩ := hfound
    obtain ⟨o, ho, hmatched⟩ := exists_outcome hq false source
    obtain ⟨⟨p, hp, -⟩, -⟩ := ((h false source).2 o ho).mp (hmatched.mpr ⟨hfound, hlist⟩)
    exact ⟨p, hp⟩
  · intro h info source
    refine ⟨exists_error_iff info source constraint, fun o ho => ?_⟩
    have hread : ∃ c, Constraint.parse constraint .text = .ok c := by
      by_contra hunread
      obtain ⟨e, he⟩ := (exists_error_iff info source constraint).mpr hunread
      cases he.symm.trans ho
    obtain ⟨q, hq⟩ := WholeText.exists_parse_iff.mp hread
    obtain ⟨o', ho', hmatched⟩ := exists_outcome hq info source
    cases ho.symm.trans ho'
    rw [hmatched]
    by_cases hp : ∃ p, Pattern.parse? constraint.toList = some p
    · obtain ⟨p, hp⟩ := hp
      simp only [hp, Option.some.injEq, exists_eq_left', ← toList_normalize,
        WholeText.found_iff_fits hp hq]
    · have hnone := (h q hq).resolve_left hp source
      constructor
      · rintro ⟨hfound, hlist⟩
        exact absurd hlist (hnone hfound)
      · rintro ⟨⟨p, hparse, -⟩, -⟩
        exact absurd ⟨p, hparse⟩ hp

/-- **The verdict on source identifiers.**  The only error is that the constraint is not read.  What
is read from a constraint matches a source exactly when it is found in the normal form and the
tokens of the normal form are well formed; this is to span the whole normal form, unless the
constraint is read without being a pattern and finds a list of well-formed tokens.  A space after a
comma makes no difference. -/
theorem verdict_exact (constraint : String) :
    (∀ (info : Bool) (source : String),
        (∃ e, (evaluate info source constraint).outcome = .error e) ↔
          ¬ ∃ c, Constraint.parse constraint .text = .ok c) ∧
      (∀ q, Pattern.compiled? constraint = some q → ∀ (info : Bool) (source : String),
        ∃ o, (evaluate info source constraint).outcome = .ok o ∧
          (o.matched = true ↔
            q.found (unspaced source.toList) = true ∧ WellFormedList (unspaced source.toList))) ∧
      (ForWholeLists constraint ↔
        ∀ q, Pattern.compiled? constraint = some q →
          (∃ p, Pattern.parse? constraint.toList = some p) ∨
            ∀ source : String, q.found (unspaced source.toList) = true →
              ¬ WellFormedList (unspaced source.toList)) ∧
      ∀ (tokens : List String) (text : String), Lists tokens text →
        (∀ token ∈ tokens, ',' ∉ token.toList) →
        (∀ token ∈ tokens.tail, token.toList.head? ≠ some ' ') → ∀ info : Bool,
          (evaluate info text constraint).outcome.map (·.matched) =
            (evaluate info (joined "," tokens) constraint).outcome.map (·.matched) := by
  refine ⟨fun info source => exists_error_iff info source constraint,
    fun q hq => exists_outcome hq, forWholeLists_iff, fun tokens text h hcomma hspace info => ?_⟩
  have htext := h.normalize_eq hcomma hspace
  have hjoined := (lists_joined tokens).normalize_eq hcomma hspace
  exact matched_congr (htext.trans hjoined.symm) info constraint

/-- What is read from `A:1,A:1` between the anchors. -/
def twice : Pattern :=
  .seq (.look .textStart) (.seq (.group none (.seq (letter 'A') (.seq (letter ':')
    (.seq (letter '1') (.seq (letter ',') (.seq (letter 'A') (.seq (letter ':') (letter '1'))))))))
    (.look .textEnd))
where
  letter (c : Char) : Pattern := .one (Pattern.literalSet .initial c)

lemma compiled?_twice : Pattern.compiled? "A:1,A:1" = some twice := by
  have hmarkless : Pattern.Markless "A:1,A:1".toList := by simp [Pattern.Markless, Pattern.marks]
  exact (Pattern.compiled?_markless_iff hmarkless).mpr ⟨rfl, by decide⟩

/-- A list matches with a space after its comma as it does without. -/
theorem verdict_exact_twice :
    (∃ o, (evaluate true "A:1, A:1" "A:1,A:1").outcome = .ok o ∧ o.matched = true) ∧
      (evaluate true "A:1, A:1" "A:1,A:1").outcome.map (·.matched) =
        (evaluate true "A:1,A:1" "A:1,A:1").outcome.map (·.matched) := by
  obtain ⟨-, hverdict, -, hlists⟩ := verdict_exact "A:1,A:1"
  have hplain : unspaced "A:1, A:1".toList = "A:1,A:1".toList := by
    rw [← toList_normalize]
    decide +kernel
  have hfound : twice.found "A:1,A:1".toList = true := by decide +kernel
  have hlist : WellFormedList "A:1,A:1".toList := check_eq_ok_iff.mp (by decide +kernel)
  obtain ⟨o, ho, hmatched⟩ := hverdict twice compiled?_twice true "A:1, A:1"
  rw [hplain] at hmatched
  refine ⟨⟨o, ho, hmatched.mpr ⟨hfound, hlist⟩⟩, ?_⟩
  have hspaced : Lists ["A:1", "A:1"] "A:1, A:1" := .space "A:1" (.single "A:1")
  exact hlists ["A:1", "A:1"] "A:1, A:1" hspaced (by decide) (by decide) true

/-- The constraint `a)|(?:b` is no pattern, and yet it finds the `a` at the start of a list. -/
theorem not_forWholeLists_reentering : ¬ ForWholeLists "a)|(?:b" := by
  intro h
  have hplain : unspaced "a:1".toList = "a:1".toList := by
    rw [← toList_normalize]
    decide +kernel
  have hfound : WholeText.reentering.found "a:1".toList = true := by decide +kernel
  have hlist : WellFormedList "a:1".toList := check_eq_ok_iff.mp (by decide +kernel)
  obtain ⟨o, ho, hmatched⟩ := exists_outcome WholeText.compiled?_reentering true "a:1"
  rw [hplain] at hmatched
  obtain ⟨⟨p, hp, -⟩, -⟩ := ((h true "a:1").2 o ho).mp (hmatched.mpr ⟨hfound, hlist⟩)
  cases hp.symm.trans WholeText.parse?_reentering

end RadarConform.SourceIdentifier
