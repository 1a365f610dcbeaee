import RadarConform.Proofs.Pattern.Anchoring

/-!
# Patterns without marks

A few characters start something other than a literal character in a pattern, outside of brackets:
the `marks`.  A text without marks is read character by character, and spans itself and nothing
else.

* `Reading.run_markless` — a reading goes through a text without marks and adds its characters.
* `item?_markless` — such a text is a pattern alone, and a closing parenthesis is one too many after
  it (`item?_markless_close`), so no comment takes the end of its group in.
* `fits_literal_iff` — **it fits itself only**, for whatever characters it has.
* `whole?_markless`, `found_between_literal_iff` — so it does between the anchors.

The marks are what the reader of parts tells apart; blanks and the number sign have a meaning only
after a change of modes, which takes a parenthesis.
-/

namespace RadarConform.Pattern

open Reading

/-! ## The marks -/

/-- The characters that start something other than a literal character. -/
def marks : List Char := ['(', ')', '|', '[', '?', '*', '+', '\x7b', '\\', '.', '^', '$']

/-- A text without marks. -/
def Markless (cs : List Char) : Prop := ∀ c ∈ cs, c ∉ marks

lemma markless_cons {c : Char} {cs : List Char} :
    Markless (c :: cs) ↔ c ∉ marks ∧ Markless cs :=
  List.forall_mem_cons

/-- The characters one after the other. -/
def literal : List Char → Pattern
  | [] => .empty
  | [c] => .one (.single c)
  | c :: d :: cs => .seq (.one (.single c)) (literal (d :: cs))

/-! ## Reading -/

namespace Reading

/-- A literal character as a part of a branch. -/
def literalItem (c : Char) : Item :=
  { pattern := .one (.single c), depth := 0, repeatable := true }

/-- The reading with some literal characters more. -/
def addLiterals (r : Reading) (cs : List Char) : Reading :=
  { r with items := (cs.map literalItem).reverse ++ r.items }

/-- What is no mark stands for itself. -/
lemma step_of_notMem_marks {c : Char} (hc : c ∉ marks) (r : Reading) (cs : List Char) :
    r.step c cs = some (r.add (.one (literalSet r.flags c)) 0, cs) := by
  simp only [marks, List.mem_cons, List.not_mem_nil, or_false, not_or] at hc
  unfold step
  split <;> simp_all

/-- **A text without marks** is read in any place where the modes are those at the start. -/
lemma run_markless {cs : List Char} (h : Markless cs) {r : Reading} (hflags : r.flags = .initial)
    (k : List Char) : r.run (cs ++ k) = (r.addLiterals cs).run k := by
  induction cs generalizing r with
  | nil => simp [addLiterals]
  | cons c cs ih =>
      rw [markless_cons] at h
      have hplain : r.flags.ignoreBlanks = false := by rw [hflags]; rfl
      have hadd : r.add (.one (literalSet r.flags c)) 0 = r.addLiterals [c] := by
        rw [hflags]
        rfl
      rw [List.cons_append, run_plain hplain, step_of_notMem_marks h.1, hadd]
      exact (ih h.2 (r := r.addLiterals [c]) hflags).trans (by simp [addLiterals])

/-- The part before others in a sequence of which the last stands first. -/
lemma pattern_sequence_concat {items : List Item} (hne : items ≠ []) (item : Item) :
    (sequence (items ++ [item])).pattern = .seq item.pattern (sequence items).pattern := by
  match items with
  | [] => exact absurd rfl hne
  | [first] => rfl
  | first :: second :: items =>
      show ((second :: items ++ [item]).foldl _ first.pattern) = _
      rw [List.foldl_append]
      rfl

lemma pattern_sequence_literals (cs : List Char) :
    (sequence (cs.map literalItem).reverse).pattern = literal cs := by
  induction cs with
  | nil => rfl
  | cons c cs ih =>
      cases cs with
      | nil => rfl
      | cons d cs =>
          rw [List.map_cons, List.reverse_cons, pattern_sequence_concat (by simp), ih]
          rfl

lemma greatestDepth_literals (cs : List Char) :
    greatestDepth (cs.map literalItem).reverse = 0 := by
  have hzero : ∀ items : List Item, (∀ item ∈ items, item.depth = 0) →
      greatestDepth items = 0 := by
    intro items h
    unfold greatestDepth
    induction items with
    | nil => rfl
    | cons item items ih =>
        rw [List.forall_mem_cons] at h
        rw [List.foldl_cons, h.1]
        exact ih h.2
  refine hzero _ fun item hitem => ?_
  obtain ⟨c, -, rfl⟩ := List.mem_map.mp (List.mem_reverse.mp hitem)
  rfl

lemma depth_sequence_literals (cs : List Char) :
    (sequence (cs.map literalItem).reverse).depth ≤ 1 := by
  have hdepth := greatestDepth_literals cs
  match h : (cs.map literalItem).reverse with
  | [] => exact Nat.zero_le 1
  | [item] =>
      rw [h] at hdepth
      have : item.depth = 0 := by simpa [greatestDepth] using hdepth
      show item.depth ≤ 1
      omega
  | first :: second :: items =>
      rw [h] at hdepth
      show greatestDepth (first :: second :: items) + 1 ≤ 1
      omega

end Reading

/-- A text without marks is a pattern. -/
lemma item?_markless {cs : List Char} (h : Markless cs) :
    item? cs = some (sequence (cs.map literalItem).reverse) := by
  rw [item?_eq_some_iff]
  refine ⟨initial.addLiterals cs, ?_, rfl, ?_⟩
  · have hrun := run_markless h (r := initial) rfl []
    rw [List.append_nil] at hrun
    rw [hrun]
    exact run_nil (skipBlanks_nil _)
  · simp [Reading.content, Reading.alternatives, addLiterals, initial]

/-- A closing parenthesis after it closes nothing. -/
lemma item?_markless_close {cs : List Char} (h : Markless cs) : item? (cs ++ [')']) = none := by
  have hrun : initial.run (cs ++ [')']) = none := by
    rw [run_markless h rfl]
    exact run_close_nil rfl []
  rw [item?, hrun]
  rfl

/-- **Between the anchors** stands what the text spans alone. -/
lemma whole?_markless {s : String} (h : Markless s.toList) :
    whole? s = some (between (literal s.toList)) := by
  rw [whole?, parse?_eq_some_iff]
  refine ⟨_, anchored_of_closed (item?_markless h) (item?_markless_close h), ?_, ?_⟩
  · have hdepth := depth_sequence_literals s.toList
    show _ + 2 ≤ 250
    omega
  · show between (sequence (s.toList.map literalItem).reverse).pattern = _
    rw [pattern_sequence_literals]

/-! ## Meaning -/

section Meaning

variable {w : List Char}

lemma spans_single_iff {c : Char} {i j : Nat} :
    Spans w (.one (.single c)) i j ↔ w[i]? = some c ∧ j = i + 1 := by
  simp [spans_one_iff, CharSet.contains_single]

/-- The first character and the others after it. -/
lemma spans_literal_cons_iff {c : Char} {cs : List Char} {i j : Nat} :
    Spans w (literal (c :: cs)) i j ↔ w[i]? = some c ∧ Spans w (literal cs) (i + 1) j := by
  cases cs with
  | nil =>
      rw [literal, literal, spans_single_iff, spans_empty_iff]
      constructor
      · rintro ⟨hc, rfl⟩
        exact ⟨hc, rfl, (List.getElem?_eq_some_iff.mp hc).1⟩
      · rintro ⟨hc, rfl, -⟩
        exact ⟨hc, rfl⟩
  | cons d cs =>
      rw [literal, spans_seq_iff]
      simp only [spans_single_iff]
      constructor
      · rintro ⟨k, ⟨hc, rfl⟩, hrest⟩
        exact ⟨hc, hrest⟩
      · rintro ⟨hc, hrest⟩
        exact ⟨i + 1, ⟨hc, rfl⟩, hrest⟩

/-- The characters are spanned wherever they stand. -/
lemma spans_literal_iff {cs : List Char} {i j : Nat} :
    Spans w (literal cs) i j ↔ i ≤ w.length ∧ cs <+: w.drop i ∧ j = i + cs.length := by
  induction cs generalizing i with
  | nil =>
      rw [literal, spans_empty_iff]
      simp only [List.nil_prefix, List.length_nil, Nat.add_zero, true_and]
      exact ⟨fun h => ⟨h.2, h.1.symm⟩, fun h => ⟨h.2.symm, h.1⟩⟩
  | cons c cs ih =>
      rw [spans_literal_cons_iff, ih, List.length_cons]
      constructor
      · rintro ⟨hc, -, hprefix, rfl⟩
        obtain ⟨hi, rfl⟩ := List.getElem?_eq_some_iff.mp hc
        refine ⟨Nat.le_of_lt hi, ?_, by omega⟩
        rw [List.drop_eq_getElem_cons hi]
        exact (List.prefix_cons_inj _).mpr hprefix
      · rintro ⟨hle, hprefix, rfl⟩
        have hlength := hprefix.length_le
        rw [List.length_cons, List.length_drop] at hlength
        have hi : i < w.length := by omega
        rw [List.drop_eq_getElem_cons hi, List.cons_prefix_cons] at hprefix
        exact ⟨List.getElem?_eq_some_iff.mpr ⟨hi, hprefix.1.symm⟩, hi, hprefix.2, by omega⟩

/-- **A text without marks fits itself only.** -/
theorem fits_literal_iff {cs : List Char} : (literal cs).Fits w ↔ w = cs := by
  rw [Fits, spans_literal_iff, List.drop_zero, Nat.zero_add]
  constructor
  · rintro ⟨-, hprefix, hlength⟩
    have heq := hprefix.eq_of_length hlength.symm
    exact heq.symm
  · rintro rfl
    exact ⟨Nat.zero_le _, List.prefix_rfl, rfl⟩

lemma ordered_literal (cs : List Char) : (literal cs).Ordered := by
  match cs with
  | [] => trivial
  | [_] => trivial
  | _ :: d :: cs => exact ⟨trivial, ordered_literal (d :: cs)⟩

lemma found_between_literal_iff {cs : List Char} :
    (between (literal cs)).found w = true ↔ w = cs :=
  (found_between_iff (ordered_literal cs)).trans fits_literal_iff

end Meaning

end RadarConform.Pattern
