import RadarConform.Pattern.Bracket
import RadarConform.Proofs.Pattern.Escape

/-!
# Bracketed sets as scanners

A set is left only at its own closing bracket, so a parenthesis after a pattern that ends inside
the brackets is an item of the set, and no closing bracket follows it in the pattern.

* `readAsciiClass?_append` — a class with a name ends before the parenthesis, because no name of a
  class holds one.
* `scans_readItem`, `scans_openBracket`, `scans_bracketTurn` — items, the start of a set, and one
  step.
* `scans_readBracket` — **a set is a scanner**, as the loop over these steps.
-/

namespace RadarConform.Pattern

/-! ## Named classes -/

/-- No name of a class holds a parenthesis. -/
lemma asciiClass?_of_close {name : List Char} (h : ')' ∈ name) :
    asciiClass? (.ofList name) = none := by
  unfold asciiClass?
  split
  all_goals try rfl
  all_goals
    next heq =>
      rw [← String.toList_inj, String.toList_ofList] at heq
      subst heq
      revert h
      decide

/-- A class from its name and from what follows the name. -/
def classOf (negated : Bool) (name : List Char) :
    List Char → Option (CharSet × Bool × List Char)
  | ':' :: ']' :: rest => (asciiClass? (.ofList name)).bind fun s => some (s, negated, rest)
  | _ => none

/-- A class from what follows its colon and the circumflex that may negate it. -/
def classAfter (negated : Bool) (cs : List Char) : Option (CharSet × Bool × List Char) :=
  classOf negated (cs.takeWhile (· != ':')) (cs.dropWhile (· != ':'))

/-- The circumflex that negates a class or a set, and what follows it. -/
def negation : List Char → Bool × List Char
  | '^' :: rest => (true, rest)
  | cs => (false, cs)

lemma negation_of_ne {cs : List Char} (h : ∀ rest, cs ≠ '^' :: rest) :
    negation cs = (false, cs) := by
  unfold negation
  split
  · exact absurd rfl (h _)
  · rfl

lemma negation_append (cs k : List Char) :
    negation (cs ++ ')' :: k) = ((negation cs).1, (negation cs).2 ++ ')' :: k) := by
  by_cases h : ∃ rest, cs = '^' :: rest
  · obtain ⟨rest, rfl⟩ := h
    rfl
  · simp only [not_exists] at h
    rw [negation_of_ne h, negation_of_ne]
    cases cs with
    | nil => simp
    | cons c cs => simpa using h cs

lemma negation_suffix (cs : List Char) : (negation cs).2 <:+ cs := by
  unfold negation
  split
  · exact List.suffix_cons _ _
  · exact List.suffix_rfl

lemma scans_negation : Scans fun cs => some (negation cs) where
  suffix {cs _ rest} h := by
    obtain rfl : (negation cs).2 = rest := congrArg Prod.snd (Option.some.inj h)
    exact negation_suffix cs
  beyond cs := by
    show Extends (some ((negation cs).1, (negation cs).2)) _
    exact .kept fun k => congrArg some (negation_append cs k)

lemma readAsciiClass?_cons (cs : List Char) :
    readAsciiClass? (':' :: cs) = classAfter (negation cs).1 (negation cs).2 := by
  unfold readAsciiClass?
  split
  · next cs heq =>
      cases heq
      split
      next negated rest heq =>
      split at heq
      · cases heq
        rfl
      · next h =>
          cases heq
          rw [negation_of_ne h]
          rfl
  · next h => exact absurd rfl (h cs)

lemma readAsciiClass?_of_ne {cs : List Char} (h : cs.head? ≠ some ':') :
    readAsciiClass? cs = none := by
  unfold readAsciiClass?
  split
  · exact absurd rfl h
  · rfl

lemma classOf_of_ne {negated : Bool} {name cs : List Char}
    (h : ∀ rest, cs ≠ ':' :: ']' :: rest) : classOf negated name cs = none := by
  unfold classOf
  split
  · exact absurd rfl (h _)
  · rfl

lemma classOf_append {negated : Bool} {name cs : List Char} (hne : cs ≠ []) (k : List Char) :
    classOf negated name (cs ++ ')' :: k) =
      (classOf negated name cs).map fun p => (p.1, p.2.1, p.2.2 ++ ')' :: k) := by
  by_cases h : ∃ rest, cs = ':' :: ']' :: rest
  · obtain ⟨rest, rfl⟩ := h
    simp only [classOf, List.cons_append]
    cases asciiClass? (.ofList name) <;> rfl
  · simp only [not_exists] at h
    rw [classOf_of_ne h, classOf_of_ne]
    · rfl
    · match cs with
      | [] => exact absurd rfl hne
      | [c] => simp
      | c :: d :: rest => simpa using h rest

lemma classAfter_append (negated : Bool) (cs k : List Char) :
    classAfter negated (cs ++ ')' :: k) =
      (classAfter negated cs).map fun p => (p.1, p.2.1, p.2.2 ++ ')' :: k) := by
  simp only [classAfter]
  rcases cut_append (· != ':') cs with ⟨hne, h⟩ | ⟨hnil, h⟩
  · obtain ⟨htake, hdrop⟩ := h (')' :: k)
    rw [htake, hdrop, classOf_append hne]
  · obtain ⟨htake, -⟩ := h (')' :: k)
    have hclose : asciiClass? (.ofList ((cs ++ ')' :: k).takeWhile (· != ':'))) = none := by
      refine asciiClass?_of_close ?_
      rw [htake]
      simp
    rw [hnil]
    simp only [classOf, hclose]
    split <;> rfl

/-- **A class with a name** is found in the pattern itself or not at all. -/
lemma readAsciiClass?_append (cs k : List Char) :
    readAsciiClass? (cs ++ ')' :: k) =
      (readAsciiClass? cs).map fun p => (p.1, p.2.1, p.2.2 ++ ')' :: k) := by
  by_cases h : cs.head? = some ':'
  · cases cs with
    | nil => cases h
    | cons c cs =>
        obtain rfl := Option.some.inj h
        rw [List.cons_append, readAsciiClass?_cons, negation_append, classAfter_append,
          readAsciiClass?_cons]
  · rw [readAsciiClass?_of_ne h, readAsciiClass?_of_ne]
    · rfl
    · cases cs with
      | nil => simp
      | cons c cs => exact h

lemma classOf_suffix {negated negated' : Bool} {name cs rest : List Char} {s : CharSet}
    (h : classOf negated name cs = some (s, negated', rest)) : rest <:+ cs := by
  unfold classOf at h
  split at h
  · obtain ⟨s', -, hs⟩ := Option.bind_eq_some_iff.mp h
    cases hs
    exact (List.suffix_cons _ _).trans (List.suffix_cons _ _)
  · cases h

lemma readAsciiClass?_suffix {cs rest : List Char} {s : CharSet} {negated : Bool}
    (h : readAsciiClass? cs = some (s, negated, rest)) : rest <:+ cs := by
  by_cases hcolon : cs.head? = some ':'
  · cases cs with
    | nil => cases hcolon
    | cons c cs =>
        obtain rfl := Option.some.inj hcolon
        rw [readAsciiClass?_cons] at h
        refine ((classOf_suffix h).trans (List.dropWhile_suffix _)).trans ?_
        exact (negation_suffix cs).trans (List.suffix_cons _ _)
  · rw [readAsciiClass?_of_ne hcolon] at h
    cases h

/-! ## Items -/

/-- What the character after the blanks says about a hyphen: it stands for itself before a closing
bracket and before another hyphen. -/
def standsAlone (f : Flags) (cs : List Char) : Prop :=
  peekPast f cs = some ']' ∨ peekPast f cs = some '-'

instance (f : Flags) : DecidablePred (standsAlone f) :=
  fun _ => inferInstanceAs (Decidable (_ ∨ _))

/-- The first character after the blanks, past the mark of a comment. -/
def pastMark : List Char → Option Char
  | '#' :: rest => (rest.dropWhile Text.isBlank).head?
  | rest => rest.head?

lemma pastMark_of_ne {cs : List Char} (h : ∀ rest, cs ≠ '#' :: rest) : pastMark cs = cs.head? := by
  unfold pastMark
  split
  · exact absurd rfl (h _)
  · rfl

lemma peekPast_eq (f : Flags) (cs : List Char) :
    peekPast f cs = if f.ignoreBlanks then pastMark (cs.dropWhile Text.isBlank) else cs.head? := rfl

/-- The parenthesis is no character that is looked for. -/
lemma head?_append_close {c : Char} (hc : c ≠ ')') (cs k : List Char) :
    (cs ++ ')' :: k).head? = some c ↔ cs.head? = some c := by
  cases cs with
  | nil => simp [hc.symm]
  | cons d cs => simp

lemma peekPast_append (f : Flags) {c : Char} (hc : c ≠ ')') (cs k : List Char) :
    peekPast f (cs ++ ')' :: k) = some c ↔ peekPast f cs = some c := by
  have hblank := fun cs => dropWhile_append_close (show Text.isBlank ')' = false by decide) cs k
  simp only [peekPast_eq]
  split
  · rw [hblank]
    by_cases h : ∃ rest, cs.dropWhile Text.isBlank = '#' :: rest
    · obtain ⟨rest, hrest⟩ := h
      simp only [hrest, List.cons_append, pastMark, hblank]
      exact head?_append_close hc _ k
    · simp only [not_exists] at h
      rw [pastMark_of_ne h, pastMark_of_ne]
      · exact head?_append_close hc _ k
      · intro rest hrest
        cases hcs : cs.dropWhile Text.isBlank with
        | nil =>
            rw [hcs] at hrest
            cases hrest
        | cons d ds =>
            rw [hcs] at hrest
            exact h ds (by rw [hcs, (List.cons.inj hrest).1])
  · exact head?_append_close hc cs k

lemma standsAlone_append (f : Flags) (cs k : List Char) :
    standsAlone f (cs ++ ')' :: k) ↔ standsAlone f cs := by
  simp only [standsAlone, peekPast_append f (show ']' ≠ ')' by decide),
    peekPast_append f (show '-' ≠ ')' by decide)]

/-- An element of a list that may stand there. -/
def readPlain (f : Flags) : List Char → Option (Escape × List Char) :=
  onHead '\\' (readSettled f) (uncons fun c cs => some (.literal c false, cs))

lemma scans_readPlain (f : Flags) : Scans (readPlain f) :=
  scans_onHead (by decide) (scans_readSettled f) (scans_uncons fun _ => scans_pure _)

/-- The item of an element that is not followed by a range. -/
def itemAlone (f : Flags) (first : Escape) (cs : List Char) : Option (CharSet × List Char) :=
  (elementSet? f first).bind fun s => some (s, cs)

/-- The rest of an item after its first element. -/
def itemAfter (f : Flags) (first : Escape) (cs : List Char) : Option (CharSet × List Char) :=
  onHead '-'
    (fun after =>
      if standsAlone f after then itemAlone f first ('-' :: after)
      else (readElement f (skipBlanks f after)).bind fun p =>
        (rangeSet? f first p.1).bind fun s => some (s, p.2))
    (itemAlone f first) (skipBlanks f cs)

lemma readItem_eq (f : Flags) (cs : List Char) :
    readItem f cs = (readElement f cs).bind fun p => itemAfter f p.1 p.2 := by
  unfold readItem
  refine congrArg _ (funext fun ⟨first, rest⟩ => ?_)
  simp only [itemAfter]
  split
  · next after h =>
      rw [h, onHead_cons]
      rfl
  · next h =>
      rw [onHead_of_ne h]
      rfl

/-- A condition on the position is no item. -/
lemma itemAfter_look (f : Flags) (l : Look) (cs : List Char) : itemAfter f (.look l) cs = none := by
  have hrange : ∀ e, rangeSet? f (.look l) e = none := fun _ => rfl
  simp only [itemAfter, itemAlone, elementSet?, hrange, Option.bind_none, Option.bind_fun_none]
  cases skipBlanks f cs with
  | nil => rfl
  | cons c rest =>
      simp only [onHead]
      split
      · split <;> rfl
      · rfl

lemma readPlain_eq (f : Flags) (cs : List Char) :
    readPlain f cs = (readElement f cs).bind fun p => (settled p.1).map (·, p.2) := by
  cases cs with
  | nil => rfl
  | cons c cs =>
      by_cases hc : c = '\\'
      · subst hc
        rfl
      · have hread : readElement f (c :: cs) = some (.literal c false, cs) := by
          unfold readElement
          split
          · next h => cases h
          · next h => exact absurd (List.cons.inj h).1 hc
          · next h =>
              cases h
              rfl
        rw [hread, readPlain, onHead, if_neg hc]
        rfl

/-- Where a condition on the position is refused anyway, it may be refused at once. -/
lemma bind_readElement {α : Type} (next : Escape → List Char → Option (α × List Char))
    (hlook : ∀ l cs, next (.look l) cs = none) (f : Flags) (cs : List Char) :
    ((readElement f cs).bind fun p => next p.1 p.2) =
      (readPlain f cs).bind fun p => next p.1 p.2 := by
  rw [readPlain_eq]
  cases readElement f cs with
  | none => rfl
  | some p =>
      obtain ⟨e, rest⟩ := p
      cases e with
      | literal c byte => rfl
      | set s => rfl
      | look l => exact hlook l rest

lemma scans_itemAfter (f : Flags) (first : Escape) : Scans (itemAfter f first) := by
  have halone : Scans (itemAlone f first) := .option _ fun _ => scans_pure _
  have hrange : ∀ e, Scans fun cs => (rangeSet? f first e).bind fun s => some (s, cs) :=
    fun _ => .option _ fun _ => scans_pure _
  have hlook : ∀ l cs, ((rangeSet? f first (.look l)).bind fun s => some (s, cs)) =
      (none : Option (CharSet × List Char)) := by
    intro l cs
    cases first <;> rfl
  have hsecond : Scans fun cs => (readElement f (skipBlanks f cs)).bind fun p =>
      (rangeSet? f first p.1).bind fun s => some (s, p.2) :=
    (((scans_readPlain f).bind hrange).skip f).congr fun cs =>
      bind_readElement (fun e cs => (rangeSet? f first e).bind fun s => some (s, cs)) hlook f _
  exact (scans_lookahead (by decide) (standsAlone_append f) hsecond halone).skip f

/-- An item whose first character is given. -/
lemma scans_readItem (f : Flags) (c : Char) : Scans fun cs => readItem f (c :: cs) := by
  have hplain : Scans fun cs => readPlain f (c :: cs) := by
    by_cases hc : c = '\\'
    · subst hc
      exact scans_readSettled f
    · exact (scans_pure _).congr fun cs => if_neg hc
  refine (hplain.bind (scans_itemAfter f)).congr fun cs => ?_
  rw [readItem_eq, bind_readElement (itemAfter f) (itemAfter_look f)]

/-! ## The start of a set -/

lemma scans_leadingHyphens (f : Flags) : Scans fun cs => some (leadingHyphens f false cs) := by
  refine scans_run (leadingHyphens f) (fun _ => rfl) ?_ ?_ false
  · intro comment c
    by_cases hcomment : comment = true
    · exact .inl ⟨c != '\n', id, fun cs => by rw [leadingHyphens, if_pos hcomment]; rfl⟩
    · by_cases hblank : (f.ignoreBlanks && Text.isBlank c) = true
      · exact .inl ⟨false, id, fun cs => by
          rw [leadingHyphens, if_neg hcomment, if_pos hblank]; rfl⟩
      · by_cases hmark : (f.ignoreBlanks && c == '#') = true
        · exact .inl ⟨true, id, fun cs => by
            rw [leadingHyphens, if_neg hcomment, if_neg hblank, if_pos hmark]; rfl⟩
        · by_cases hhyphen : c = '-'
          · exact .inl ⟨false, (· + 1), fun cs => by
              rw [leadingHyphens, if_neg hcomment, if_neg hblank, if_neg hmark, if_pos hhyphen]⟩
          · exact .inr fun cs => by
              rw [leadingHyphens, if_neg hcomment, if_neg hblank, if_neg hmark, if_neg hhyphen]
  · rintro (_ | _)
    · exact .inl fun k => by simp [leadingHyphens, Text.isBlank]
    · refine .inr fun c cs hc => ?_
      have hc' : (c != '\n') = true := bne_iff_ne.mpr hc
      rw [leadingHyphens, if_pos rfl, hc']

/-- The set that starts with a number of hyphens; where there is none, a closing bracket may stand
for itself. -/
def afterHyphens (negated : Bool) (n : Nat) (cs : List Char) : Option (Bracket × List Char) :=
  let hyphens := List.replicate n { set := .single '-', depth := 0 : SetPart }
  if n = 0 then
    onHead ']' (fun rest => some (⟨negated, none, [⟨.single ']', 0⟩]⟩, rest))
      (fun rest => some (⟨negated, none, hyphens⟩, rest)) cs
  else some (⟨negated, none, hyphens⟩, cs)

/-- The set that starts after its circumflex. -/
def afterNegation (f : Flags) (negated : Bool) (cs : List Char) : Option (Bracket × List Char) :=
  (some (leadingHyphens f false cs)).bind fun p => afterHyphens negated p.1 p.2

lemma openBracket_eq (f : Flags) (cs : List Char) :
    some (openBracket f cs) =
      (some (negation (skipBlanks f cs))).bind fun p => afterNegation f p.1 p.2 := by
  simp only [Option.bind_some, afterNegation]
  unfold openBracket
  dsimp -iota -proj only
  split
  next negated rest heq =>
  have hnegation : negation (skipBlanks f cs) = (negated, rest) := by
    split at heq
    · next h => rw [h, ← heq]; rfl
    · next h => rw [negation_of_ne h, ← heq]
  rw [hnegation]
  generalize leadingHyphens f false rest = p
  obtain ⟨n, rest⟩ := p
  simp only [afterHyphens]
  split
  · rfl
  · next hother =>
      split
      · next hn => rw [onHead_of_ne fun rest => hother rest hn]
      · rfl

lemma scans_openBracket (f : Flags) : Scans fun cs => some (openBracket f cs) := by
  have hhyphens (negated : Bool) (n : Nat) : Scans (afterHyphens negated n) :=
    .ite (scans_onHead (by decide) (scans_pure _) (scans_pure _)) (scans_pure _)
  have hafter (negated : Bool) : Scans (afterNegation f negated) :=
    (scans_leadingHyphens f).bind (hhyphens negated)
  exact (((scans_negation).bind hafter).skip f).congr (openBracket_eq f)

/-! ## Steps -/

/-- The open sets, from the outermost but the current one inwards, and the current one. -/
abbrev Brackets := List Bracket × Bracket

/-- What a step leads to, and what is left to read. -/
def BracketStep.turn : BracketStep → (SetPart ⊕ Brackets) × List Char
  | .more outer current rest => (.inr (outer, current), rest)
  | .done part rest => (.inl part, rest)

/-- One step after the first character. -/
def stepAfter (f : Flags) (b : Brackets) (c : Char) (cs : List Char) :
    Option ((SetPart ⊕ Brackets) × List Char) :=
  (bracketStep f b.1 b.2 (c :: cs)).map (·.turn)

/-- An item of the current set. -/
def itemTurn (f : Flags) (b : Brackets) (c : Char) (cs : List Char) :
    Option ((SetPart ⊕ Brackets) × List Char) :=
  (readItem f (c :: cs)).map fun p => (.inr (b.1, b.2.add p.1 0), p.2)

lemma scans_itemTurn (f : Flags) (b : Brackets) (c : Char) : Scans (itemTurn f b c) :=
  (scans_readItem f c).map fun s => (.inr (b.1, b.2.add s 0) : SetPart ⊕ Brackets)

/-- A class with a name or a new set inside the current one. -/
lemma scans_stepAfter_open (f : Flags) (b : Brackets) : Scans (stepAfter f b '[') := by
  have hopen : Scans fun cs => (some (openBracket f cs)).map fun p =>
      ((.inr (b.2 :: b.1, p.1), p.2) : (SetPart ⊕ Brackets) × List Char) :=
    (scans_openBracket f).map fun inner => (.inr (b.2 :: b.1, inner) : SetPart ⊕ Brackets)
  have hnone {cs : List Char} (h : readAsciiClass? cs = none) :
      stepAfter f b '[' cs = (some (openBracket f cs)).map fun p =>
        (.inr (b.2 :: b.1, p.1), p.2) := by
    simp only [stepAfter, bracketStep, h]
    rfl
  have hsome {cs rest : List Char} {s : CharSet} {negated : Bool}
      (h : readAsciiClass? cs = some (s, negated, rest)) :
      stepAfter f b '[' cs = (negatedIf f negated (foldedIf f s)).map fun s =>
        (.inr (b.1, b.2.add s 0), rest) := by
    simp only [stepAfter, bracketStep, h]
    cases negatedIf f negated (foldedIf f s) <;> rfl
  constructor
  · intro cs x rest hx
    cases hclass : readAsciiClass? cs with
    | none =>
        rw [hnone hclass] at hx
        exact hopen.suffix hx
    | some p =>
        obtain ⟨s, negated, rest'⟩ := p
        rw [hsome hclass] at hx
        obtain ⟨s', -, heq⟩ := Option.map_eq_some_iff.mp hx
        cases heq
        exact readAsciiClass?_suffix hclass
  · intro cs
    cases hclass : readAsciiClass? cs with
    | none =>
        refine (hopen.beyond cs).congr (hnone hclass) fun k => hnone ?_
        rw [readAsciiClass?_append, hclass]
        rfl
    | some p =>
        obtain ⟨s, negated, rest'⟩ := p
        have happend := fun k => hsome ((readAsciiClass?_append cs k).trans (by rw [hclass]; rfl))
        rw [hsome hclass]
        cases hset : negatedIf f negated (foldedIf f s) with
        | none => exact .failed fun k x rest hx => by rw [happend, hset] at hx; cases hx
        | some s' => exact .kept fun k => by rw [happend, hset]; rfl

lemma scans_stepAfter_close (f : Flags) (b : Brackets) : Scans (stepAfter f b ']') := by
  obtain ⟨outer, current⟩ := b
  cases outer with
  | nil =>
      have hend (part : SetPart) := scans_pure (.inl part : SetPart ⊕ Brackets)
      refine (Scans.option (current.close? f) hend).congr fun cs => ?_
      simp only [stepAfter, bracketStep]
      cases current.close? f <;> rfl
  | cons next outer =>
      have hinner (part : SetPart) :=
        scans_pure (.inr (outer, next.add part.set part.depth) : SetPart ⊕ Brackets)
      refine (Scans.option (current.close? f) hinner).congr fun cs => ?_
      simp only [stepAfter, bracketStep]
      cases current.close? f <;> rfl

/-- The mark of an operation, which is one character twice. -/
lemma scans_stepAfter_mark (f : Flags) (b : Brackets) {c : Char} {op : SetOp} (hc : c ≠ ')')
    (hdouble : ∀ cs, stepAfter f b c (c :: cs) = some (.inr (b.1, b.2.operate f op), cs))
    (hsingle : ∀ cs, (∀ rest, cs ≠ c :: rest) → stepAfter f b c cs = itemTurn f b c cs) :
    Scans (stepAfter f b c) := by
  refine (scans_onHead hc (scans_pure (.inr (b.1, b.2.operate f op)))
    (scans_itemTurn f b c)).congr fun cs => ?_
  by_cases h : ∃ rest, cs = c :: rest
  · obtain ⟨rest, rfl⟩ := h
    rw [onHead_cons, hdouble]
  · simp only [not_exists] at h
    rw [onHead_of_ne h, hsingle cs h]

lemma stepAfter_item (f : Flags) (b : Brackets) {c : Char} (cs : List Char) (hopen : c ≠ '[')
    (hclose : c ≠ ']') (hmark : ∀ rest, cs = c :: rest → c ≠ '&' ∧ c ≠ '-' ∧ c ≠ '~') :
    stepAfter f b c cs = itemTurn f b c cs := by
  simp only [stepAfter, itemTurn]
  unfold bracketStep
  split
  · next h => cases h
  · next h => exact absurd (List.cons.inj h).1 hopen
  · next h => exact absurd (List.cons.inj h).1 hclose
  · next h =>
      cases h
      exact absurd rfl (hmark _ rfl).1
  · next h =>
      cases h
      exact absurd rfl (hmark _ rfl).2.1
  · next h =>
      cases h
      exact absurd rfl (hmark _ rfl).2.2
  · cases readItem f (c :: cs) <;> rfl

lemma scans_stepAfter (f : Flags) (b : Brackets) (c : Char) : Scans (stepAfter f b c) := by
  have hsingle {c : Char} (hopen : c ≠ '[') (hclose : c ≠ ']') :
      ∀ cs, (∀ rest, cs ≠ c :: rest) → stepAfter f b c cs = itemTurn f b c cs :=
    fun cs h => stepAfter_item f b cs hopen hclose fun rest heq => absurd heq (h rest)
  by_cases hopen : c = '['
  · subst hopen
    exact scans_stepAfter_open f b
  by_cases hclose : c = ']'
  · subst hclose
    exact scans_stepAfter_close f b
  by_cases hinter : c = '&'
  · subst hinter
    exact scans_stepAfter_mark f b (by decide) (fun _ => rfl) (hsingle hopen hclose)
  by_cases hdiff : c = '-'
  · subst hdiff
    exact scans_stepAfter_mark f b (by decide) (fun _ => rfl) (hsingle hopen hclose)
  by_cases hsymm : c = '~'
  · subst hsymm
    exact scans_stepAfter_mark f b (by decide) (fun _ => rfl) (hsingle hopen hclose)
  exact (scans_itemTurn f b c).congr fun cs =>
    stepAfter_item f b cs hopen hclose fun _ _ => ⟨hinter, hdiff, hsymm⟩

/-! ## Sets -/

/-- One turn of the loop over a set. -/
def bracketTurn (f : Flags) (b : Brackets) (cs : List Char) :
    Option ((SetPart ⊕ Brackets) × List Char) :=
  uncons (stepAfter f b) (skipBlanks f cs)

lemma scans_bracketTurn (f : Flags) (b : Brackets) : Scans (bracketTurn f b) :=
  (scans_uncons (scans_stepAfter f b)).skip f

/-- Every turn takes a character. -/
lemma length_of_bracketTurn {f : Flags} {b : Brackets} {cs rest : List Char}
    {x : SetPart ⊕ Brackets} (h : bracketTurn f b cs = some (x, rest)) :
    rest.length < cs.length := by
  have hskip := (skipBlanks_suffix f cs).length_le
  simp only [bracketTurn] at h
  cases hcs : skipBlanks f cs with
  | nil =>
      rw [hcs] at h
      cases h
  | cons c ds =>
      rw [hcs] at h hskip
      have := ((scans_stepAfter f b c).suffix h).length_le
      simp only [List.length_cons] at hskip
      omega

lemma bracketTurn_eq (f : Flags) (b : Brackets) (cs : List Char) :
    bracketTurn f b cs = (bracketStep f b.1 b.2 (skipBlanks f cs)).map (·.turn) := by
  simp only [bracketTurn]
  cases skipBlanks f cs <;> rfl

lemma readSets_eq (f : Flags) (b : Brackets) (cs : List Char) :
    readSets f b.1 b.2 cs = (bracketTurn f b cs).bind fun p =>
      turn (fun b => readSets f b.1 b.2) p.1 p.2 := by
  have hless := @length_of_bracketTurn f b cs
  rw [readSets]
  rw [bracketTurn_eq] at hless ⊢
  cases hstep : bracketStep f b.1 b.2 (skipBlanks f cs) with
  | none => rfl
  | some step =>
      cases step with
      | done part rest => rfl
      | more outer current rest =>
          exact if_pos (hless (by rw [hstep]; rfl))

/-- **A bracketed set** is read as by itself, or not at all. -/
lemma scans_readBracket (f : Flags) : Scans (readBracket f) := by
  have hsets := scans_loop (scans_bracketTurn f) (fun _ _ _ _ => length_of_bracketTurn)
    (readSets_eq f)
  exact (scans_openBracket f).bind fun current => hsets ([], current)

end RadarConform.Pattern
