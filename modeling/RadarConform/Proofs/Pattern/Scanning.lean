import Mathlib.Tactic.Lemma
import RadarConform.Pattern.Escape

/-!
# Reading a pattern with a parenthesis after it

The text of a pattern is put in a group before it is read, so every part of the reader runs on a
text that goes on where the pattern ends: with the closing parenthesis of the group, and then with
any text `k`.  The parts of the reader are *scanners*: they take something from the start of a text
and return the rest of it.

* `Extends` — how a scanner on the longer text compares with the scanner on the pattern alone.
  It reads the same and leaves the parenthesis (`kept`), or the pattern ends in a comment that takes
  in the parenthesis too (`swallowed`), or it fails on the pattern alone and can only go on by
  reading into `k` (`failed`).
* `Scans` — a scanner for which this holds of every text, together with the combinators that
  scanners are made of: `Scans.bind`, `scans_uncons`, `scans_onHead`, `Scans.skip`.

A comment ends with the line, so what is said of a swallowed parenthesis is said for `k` without a
line feed.
-/

namespace RadarConform.Pattern

variable {α β δ : Type}

/-! ## The comparison -/

/-- A scanner that gets past the parenthesis leaves no more than `k`. -/
def Intrudes (y : List Char → Option (α × List Char)) : Prop :=
  ∀ k a rest, y k = some (a, rest) → rest <:+ k

/-- What a scanner returns on a pattern alone, and what it returns when a closing parenthesis and a
text `k` follow. -/
inductive Extends : Option (α × List Char) → (List Char → Option (α × List Char)) → Prop
  | kept {a : α} {rest : List Char} {y : List Char → Option (α × List Char)} :
      (∀ k, y k = some (a, rest ++ ')' :: k)) → Extends (some (a, rest)) y
  | swallowed {a : α} {y : List Char → Option (α × List Char)} :
      (∀ k, '\n' ∉ k → y k = some (a, [])) → Intrudes y → Extends (some (a, [])) y
  | failed {y : List Char → Option (α × List Char)} : Intrudes y → Extends none y

/-- A scanner: it returns the rest of its text, and a parenthesis after the text is kept, swallowed
or intruded upon. -/
structure Scans (read : List Char → Option (α × List Char)) : Prop where
  suffix {cs : List Char} {a : α} {rest : List Char} : read cs = some (a, rest) → rest <:+ cs
  beyond (cs : List Char) : Extends (read cs) fun k => read (cs ++ ')' :: k)

lemma Extends.congr {x x' : Option (α × List Char)} {y y' : List Char → Option (α × List Char)}
    (h : Extends x y) (hx : x' = x) (hy : ∀ k, y' k = y k) : Extends x' y' := by
  obtain rfl : y' = y := funext hy
  rwa [hx]

/-- Scanners are compared by what they return. -/
lemma Scans.congr {read read' : List Char → Option (α × List Char)} (h : Scans read)
    (heq : ∀ cs, read' cs = read cs) : Scans read' := by
  obtain rfl : read' = read := funext heq
  exact h

/-- No suffix of a text holds the text and more. -/
lemma not_suffix_of_append {rest k : List Char} {c : Char} : ¬ rest ++ c :: k <:+ k := by
  intro h
  have := h.length_le
  simp only [List.length_append, List.length_cons] at this
  omega

/-- A result that leaves the parenthesis was read from the pattern alone. -/
lemma Extends.of_kept {x : Option (α × List Char)} {y : List Char → Option (α × List Char)}
    (h : Extends x y) {k rest : List Char} {a : α} (hy : y k = some (a, rest ++ ')' :: k)) :
    x = some (a, rest) ∧ ∀ k, y k = some (a, rest ++ ')' :: k) := by
  cases h with
  | @kept b rest' _ hkept =>
      rw [hkept k, Option.some.injEq, Prod.mk.injEq] at hy
      obtain ⟨rfl, hrest⟩ := hy
      obtain rfl := List.append_cancel_right hrest
      exact ⟨rfl, hkept⟩
  | swallowed _ hintrudes => exact absurd (hintrudes _ _ _ hy) not_suffix_of_append
  | failed hintrudes => exact absurd (hintrudes _ _ _ hy) not_suffix_of_append

/-! ## Combinators -/

lemma scans_pure (a : α) : Scans fun cs => some (a, cs) where
  suffix h := by
    cases h
    exact List.suffix_rfl
  beyond _ := .kept fun _ => rfl

lemma scans_fail : Scans fun _ => (none : Option (α × List Char)) where
  suffix h := by cases h
  beyond _ := .failed fun _ _ _ h => by cases h

/-- One comparison and then another, of what is read next. -/
lemma Extends.bind {x : Option (α × List Char)} {y : List Char → Option (α × List Char)}
    {next : α → List Char → Option (β × List Char)} (h : Extends x y)
    (hsuffix : ∀ a cs b rest, next a cs = some (b, rest) → rest <:+ cs)
    (hnext : ∀ a rest, x = some (a, rest) →
      Extends (next a rest) fun k => next a (rest ++ ')' :: k)) :
    Extends (x.bind fun p => next p.1 p.2) fun k => (y k).bind fun p => next p.1 p.2 := by
  have hintrudes : Intrudes y → Intrudes fun k => (y k).bind fun p => next p.1 p.2 := by
    intro hy k b rest hb
    obtain ⟨⟨a, mid⟩, ha, hmid⟩ := Option.bind_eq_some_iff.mp hb
    exact (hsuffix a mid b rest hmid).trans (hy k a mid ha)
  cases h with
  | @kept a rest _ hkept =>
      refine (hnext a rest rfl).congr rfl fun k => ?_
      simp only [hkept k, Option.bind_some]
  | @swallowed a _ hswallowed hy =>
      simp only [Option.bind_some]
      cases hread : next a [] with
      | none => exact .failed (hintrudes hy)
      | some p =>
          obtain ⟨b, rest⟩ := p
          obtain rfl := List.suffix_nil.mp (hsuffix a [] b rest hread)
          refine .swallowed (fun k hk => ?_) (hintrudes hy)
          simp only [hswallowed k hk, Option.bind_some, hread]
  | failed hy => exact .failed (hintrudes hy)

lemma Extends.map {x : Option (α × List Char)} {y : List Char → Option (α × List Char)}
    (h : Extends x y) (f : α → β) :
    Extends (x.map fun p => (f p.1, p.2)) fun k => (y k).map fun p => (f p.1, p.2) := by
  have hpure := fun a => scans_pure (f a)
  refine (h.bind (fun a _ _ _ => (hpure a).suffix) fun a rest _ => (hpure a).beyond rest).congr ?_
    fun k => ?_
  · cases x <;> rfl
  · cases y k <;> rfl

/-- One scanner and then another. -/
lemma Scans.bind {read : List Char → Option (α × List Char)}
    {next : α → List Char → Option (β × List Char)} (h : Scans read)
    (hnext : ∀ a, Scans (next a)) : Scans fun cs => (read cs).bind fun p => next p.1 p.2 where
  suffix hb := by
    obtain ⟨⟨a, mid⟩, ha, hmid⟩ := Option.bind_eq_some_iff.mp hb
    exact ((hnext a).suffix hmid).trans (h.suffix ha)
  beyond cs := (h.beyond cs).bind (fun a _ _ _ => (hnext a).suffix)
    fun a rest _ => (hnext a).beyond rest

/-- A scanner whose result is turned into another or refused. -/
lemma Scans.filterMap {read : List Char → Option (α × List Char)} (h : Scans read)
    (f : α → Option β) : Scans fun cs => (read cs).bind fun p => (f p.1).map (·, p.2) := by
  have hnext : ∀ a, Scans fun cs => (f a).map fun b => (b, cs) := by
    intro a
    cases f a with
    | none => exact scans_fail
    | some b => exact scans_pure b
  exact h.bind hnext

lemma Scans.map {read : List Char → Option (α × List Char)} (h : Scans read) (f : α → β) :
    Scans fun cs => (read cs).map fun p => (f p.1, p.2) := by
  refine (h.filterMap (some ∘ f)).congr fun cs => ?_
  cases read cs <;> rfl

/-- What comes before the text is read decides how. -/
lemma Scans.option {next : δ → List Char → Option (α × List Char)} (x : Option δ)
    (h : ∀ d, Scans (next d)) : Scans fun cs => x.bind fun d => next d cs := by
  cases x with
  | none => exact scans_fail
  | some d => exact h d

lemma Scans.ite {p : Prop} [Decidable p] {read read' : List Char → Option (α × List Char)}
    (h : Scans read) (h' : Scans read') : Scans fun cs => if p then read cs else read' cs := by
  by_cases hp : p
  · simpa only [if_pos hp] using h
  · simpa only [if_neg hp] using h'

/-- One character and then a scanner, which may depend on the character; the end of the text is a
failure. -/
def uncons (next : Char → List Char → Option (α × List Char)) :
    List Char → Option (α × List Char)
  | [] => none
  | c :: cs => next c cs

lemma scans_uncons {next : Char → List Char → Option (α × List Char)}
    (h : ∀ c, Scans (next c)) : Scans (uncons next) where
  suffix {cs a rest} ha := by
    cases cs with
    | nil => cases ha
    | cons c cs => exact ((h c).suffix ha).trans (List.suffix_cons _ _)
  beyond cs := by
    cases cs with
    | nil => exact .failed fun k a rest ha => (h ')').suffix ha
    | cons c cs => exact (h c).beyond cs

/-- One scanner after a character and another one, from there, where the character does not
stand. -/
def onHead (d : Char) (next other : List Char → β) : List Char → β
  | [] => other []
  | c :: cs => if c = d then next cs else other (c :: cs)

lemma onHead_cons (d : Char) (next other : List Char → β) (cs : List Char) :
    onHead d next other (d :: cs) = next cs := if_pos rfl

lemma onHead_of_ne {d : Char} {cs : List Char} (h : ∀ rest, cs ≠ d :: rest)
    (next other : List Char → β) : onHead d next other cs = other cs := by
  cases cs with
  | nil => rfl
  | cons c cs => exact if_neg fun hc => h cs (by rw [hc])

lemma scans_onHead {d : Char} (hd : d ≠ ')')
    {next other : List Char → Option (α × List Char)} (h : Scans next) (h' : Scans other) :
    Scans (onHead d next other) where
  suffix {cs a rest} ha := by
    cases cs with
    | nil => exact h'.suffix ha
    | cons c cs =>
        simp only [onHead] at ha
        split at ha
        · exact (h.suffix ha).trans (List.suffix_cons _ _)
        · exact h'.suffix ha
  beyond cs := by
    cases cs with
    | nil =>
        refine (h'.beyond []).congr rfl fun k => ?_
        simp [onHead, hd.symm]
    | cons c cs =>
        simp only [onHead, List.cons_append]
        split
        · exact h.beyond cs
        · exact h'.beyond (c :: cs)

/-- As `onHead`, but what follows the character decides whether it is taken; the decision must not
depend on the parenthesis. -/
lemma scans_lookahead {d : Char} (hd : d ≠ ')') {p : List Char → Prop} [DecidablePred p]
    (hp : ∀ cs k, p (cs ++ ')' :: k) ↔ p cs) {next other : List Char → Option (α × List Char)}
    (h : Scans next) (h' : Scans other) :
    Scans (onHead d (fun cs => if p cs then other (d :: cs) else next cs) other) where
  suffix {cs a rest} ha := by
    cases cs with
    | nil => exact h'.suffix ha
    | cons c cs =>
        simp only [onHead] at ha
        split at ha
        · next hc =>
            subst hc
            split at ha
            · exact h'.suffix ha
            · exact (h.suffix ha).trans (List.suffix_cons _ _)
        · exact h'.suffix ha
  beyond cs := by
    cases cs with
    | nil =>
        refine (h'.beyond []).congr rfl fun k => ?_
        simp [onHead, hd.symm]
    | cons c cs =>
        simp only [onHead, List.cons_append, hp]
        split
        · split
          · exact h'.beyond (d :: cs)
          · exact h.beyond cs
        · exact h'.beyond (c :: cs)

/-! ## Loops -/

/-- What a turn of a loop leads to: its end, with a result, or another turn in another state. -/
def turn {σ : Type} (loop : σ → List Char → Option (α × List Char)) :
    α ⊕ σ → List Char → Option (α × List Char)
  | .inl a, cs => some (a, cs)
  | .inr s, cs => loop s cs

/-- **Loops.**  A loop over a scanner that always takes something is a scanner; each turn ends the
loop or goes on in another state. -/
lemma scans_loop {σ : Type} {step : σ → List Char → Option ((α ⊕ σ) × List Char)}
    {loop : σ → List Char → Option (α × List Char)} (hstep : ∀ s, Scans (step s))
    (hless : ∀ s cs x rest, step s cs = some (x, rest) → rest.length < cs.length)
    (hloop : ∀ s cs, loop s cs = (step s cs).bind fun p => turn loop p.1 p.2)
    (s : σ) : Scans (loop s) := by
  have hsuffix : ∀ s cs a rest, loop s cs = some (a, rest) → rest <:+ cs := by
    intro s cs
    induction hn : cs.length using Nat.strongRecOn generalizing s cs with
    | ind n ih =>
    intro a rest h
    rw [hloop] at h
    obtain ⟨⟨x, mid⟩, hmid, hrest⟩ := Option.bind_eq_some_iff.mp h
    have hlt := hless s cs x mid hmid
    refine List.IsSuffix.trans ?_ ((hstep s).suffix hmid)
    cases x with
    | inl b =>
        cases hrest
        exact List.suffix_rfl
    | inr s' => exact ih mid.length (by omega) s' mid rfl a rest hrest
  refine ⟨fun h => hsuffix s _ _ _ h, fun cs => ?_⟩
  induction hn : cs.length using Nat.strongRecOn generalizing s cs with
  | ind n ih =>
  have hturn : ∀ x mid a rest, turn loop x mid = some (a, rest) → rest <:+ mid := by
    rintro (b | s') mid a rest h
    · cases h
      exact List.suffix_rfl
    · exact hsuffix s' mid a rest h
  have hnext : ∀ x rest, step s cs = some (x, rest) →
      Extends (turn loop x rest) fun k => turn loop x (rest ++ ')' :: k) := by
    rintro (b | s') rest h
    · exact .kept fun _ => rfl
    · have := hless s cs _ rest h
      exact ih rest.length (by omega) s' rest rfl
  exact (((hstep s).beyond cs).bind hturn hnext).congr (hloop s cs)
    fun k => hloop s (cs ++ ')' :: k)

/-! ## Runs of characters -/

/-- **Runs.**  A run takes one character after the other, in a state, until it stops before one or
the text ends.  Before the parenthesis it either stops or is in a comment, which takes in everything
up to the end of the line. -/
lemma scans_run {σ : Type} (read : σ → List Char → α × List Char) {e : α}
    (hnil : ∀ s, read s [] = (e, []))
    (hcons : ∀ s c,
      (∃ s', ∃ g : α → α, ∀ cs, read s (c :: cs) = (g (read s' cs).1, (read s' cs).2)) ∨
      ∀ cs, read s (c :: cs) = (e, c :: cs))
    (hclose : ∀ s, (∀ k, read s (')' :: k) = (e, ')' :: k)) ∨
      ∀ c cs, c ≠ '\n' → read s (c :: cs) = read s cs)
    (s : σ) : Scans fun cs => some (read s cs) := by
  have hsuffix : ∀ s cs, (read s cs).2 <:+ cs := by
    intro s cs
    induction cs generalizing s with
    | nil => simp [hnil]
    | cons c cs ih =>
        rcases hcons s c with ⟨s', g, h⟩ | h
        · rw [h]
          exact (ih s').trans (List.suffix_cons c cs)
        · simp [h]
  constructor
  · intro cs a rest h
    obtain rfl : (read s cs).2 = rest := congrArg Prod.snd (Option.some.inj h)
    exact hsuffix s cs
  · intro cs
    induction cs generalizing s with
    | nil =>
        rw [hnil]
        rcases hclose s with h | h
        · exact .kept fun k => by simp [h]
        · refine .swallowed (fun k hk => ?_) fun k a rest hread => ?_
          · rw [List.nil_append, h ')' k (by decide)]
            induction k with
            | nil => rw [hnil]
            | cons c k ih =>
                simp only [List.mem_cons, not_or] at hk
                rw [h c k (Ne.symm hk.1), ih hk.2]
          · rw [List.nil_append, h ')' k (by decide)] at hread
            obtain rfl : (read s k).2 = rest := congrArg Prod.snd (Option.some.inj hread)
            exact hsuffix s k
    | cons c cs ih =>
        rcases hcons s c with ⟨s', g, h⟩ | h
        · have hmap := (ih s').map g
          exact hmap.congr (by simp [h]) fun k => by simp [h]
        · rw [h]
          exact .kept fun k => by simp [h]

/-- A run that must find its end before the text does. -/
lemma scans_until {σ : Type} (read : σ → List Char → Option (α × List Char))
    (hnil : ∀ s, read s [] = none)
    (hcons : ∀ s c,
      (∃ s', ∃ g : α → α, ∀ cs, read s (c :: cs) = (read s' cs).map fun p => (g p.1, p.2)) ∨
      ∃ x : Option α, ∀ cs, read s (c :: cs) = x.map (·, cs))
    (s : σ) : Scans (read s) := by
  have hrest : ∀ s c cs a rest, (∀ s b mid, read s cs = some (b, mid) → mid <:+ cs) →
      read s (c :: cs) = some (a, rest) → rest <:+ cs := by
    intro s c cs a rest ih h
    rcases hcons s c with ⟨s', g, hc⟩ | ⟨x, hc⟩
    · rw [hc] at h
      obtain ⟨⟨b, mid⟩, hread, heq⟩ := Option.map_eq_some_iff.mp h
      cases heq
      exact ih s' b _ hread
    · rw [hc] at h
      obtain ⟨b, -, heq⟩ := Option.map_eq_some_iff.mp h
      cases heq
      exact List.suffix_rfl
  have hsuffix : ∀ cs s a rest, read s cs = some (a, rest) → rest <:+ cs := by
    intro cs
    induction cs with
    | nil =>
        intro s a rest h
        rw [hnil] at h
        cases h
    | cons c cs ih =>
        intro s a rest h
        exact (hrest s c cs a rest ih h).trans (List.suffix_cons c cs)
  refine ⟨fun h => hsuffix _ s _ _ h, fun cs => ?_⟩
  induction cs generalizing s with
  | nil =>
      rw [hnil]
      exact .failed fun k a rest h => hrest s ')' k a rest (hsuffix k) h
  | cons c cs ih =>
      rcases hcons s c with ⟨s', g, hc⟩ | ⟨x, hc⟩
      · exact ((ih s').map g).congr (hc cs) fun k => hc (cs ++ ')' :: k)
      · rw [hc]
        cases x with
        | none => exact .failed fun k a rest h => by rw [List.cons_append, hc] at h; cases h
        | some a => exact .kept fun k => hc _

/-- Where a text is cut at the first character without a property: in the text or behind it. -/
lemma cut_append (p : Char → Bool) (cs : List Char) :
    (cs.dropWhile p ≠ [] ∧ ∀ k, (cs ++ k).takeWhile p = cs.takeWhile p ∧
      (cs ++ k).dropWhile p = cs.dropWhile p ++ k) ∨
    (cs.dropWhile p = [] ∧ ∀ k, (cs ++ k).takeWhile p = cs ++ k.takeWhile p ∧
      (cs ++ k).dropWhile p = k.dropWhile p) := by
  induction cs with
  | nil => exact .inr ⟨rfl, fun k => ⟨rfl, rfl⟩⟩
  | cons c cs ih =>
      by_cases hc : p c = true
      · simpa [hc] using ih
      · exact .inl (by simp [hc])

lemma dropWhile_append_close {p : Char → Bool} (hp : p ')' = false) (cs k : List Char) :
    (cs ++ ')' :: k).dropWhile p = cs.dropWhile p ++ ')' :: k := by
  rcases cut_append p cs with ⟨-, h⟩ | ⟨hnil, h⟩
  · exact (h _).2
  · rw [(h _).2, hnil, List.dropWhile_cons, hp]
    rfl

/-- White space is dropped. -/
lemma scans_dropBlanks : Scans fun cs => some ((), cs.dropWhile Text.isBlank) where
  suffix {cs _ rest} h := by
    obtain rfl : cs.dropWhile Text.isBlank = rest := congrArg Prod.snd (Option.some.inj h)
    exact List.dropWhile_suffix _
  beyond cs := .kept fun k => by rw [dropWhile_append_close (by decide)]

/-! ## Blanks and comments -/

lemma scans_skipFrom (comment : Bool) : Scans fun cs => some ((), skipFrom comment cs) := by
  refine scans_run (fun comment cs => ((), skipFrom comment cs)) (fun _ => rfl) ?_ ?_ comment
  · intro comment c
    by_cases hcomment : comment = true
    · exact .inl ⟨c != '\n', id, fun cs => by simp [skipFrom, hcomment]⟩
    · by_cases hblank : Text.isBlank c = true
      · exact .inl ⟨false, id, fun cs => by simp [skipFrom, hcomment, hblank]⟩
      · by_cases hmark : c = '#'
        · subst hmark
          exact .inl ⟨true, id, fun cs => by simp [skipFrom, hcomment, hblank]⟩
        · exact .inr fun cs => by simp [skipFrom, hcomment, hblank, hmark]
  · rintro (_ | _)
    · exact .inl fun k => by simp [skipFrom, Text.isBlank]
    · exact .inr fun c cs hc => by
        have hc' : (c != '\n') = true := bne_iff_ne.mpr hc
        simp [skipFrom, hc']

lemma scans_skipBlanks (f : Flags) : Scans fun cs => some ((), skipBlanks f cs) := by
  by_cases h : f.ignoreBlanks = true
  · simpa only [skipBlanks, if_pos h] using scans_skipFrom false
  · simpa only [skipBlanks, if_neg h] using scans_pure ()

lemma skipBlanks_suffix (f : Flags) (cs : List Char) : skipBlanks f cs <:+ cs :=
  (scans_skipBlanks f).suffix rfl

/-- Before the parenthesis blanks and comments end, or a comment takes it in. -/
lemma skipBlanks_beyond (f : Flags) (cs : List Char) :
    (∀ k, skipBlanks f (cs ++ ')' :: k) = skipBlanks f cs ++ ')' :: k) ∨
      (skipBlanks f cs = [] ∧ (∀ k, '\n' ∉ k → skipBlanks f (cs ++ ')' :: k) = []) ∧
        ∀ k, skipBlanks f (cs ++ ')' :: k) <:+ k) := by
  have hbeyond := (scans_skipBlanks f).beyond cs
  generalize hskip : skipBlanks f cs = rest at hbeyond
  cases hbeyond with
  | kept hkept => exact .inl fun k => congrArg Prod.snd (Option.some.inj (hkept k))
  | swallowed hswallowed hintrudes =>
      refine .inr ⟨rfl, fun k hk => ?_, fun k => hintrudes k () _ rfl⟩
      exact congrArg Prod.snd (Option.some.inj (hswallowed k hk))

lemma skipBlanks_append {f : Flags} {cs rest : List Char} {c : Char}
    (h : skipBlanks f cs = c :: rest) (k : List Char) :
    skipBlanks f (cs ++ ')' :: k) = c :: (rest ++ ')' :: k) := by
  rcases skipBlanks_beyond f cs with hkept | ⟨hnil, -⟩
  · rw [hkept, h, List.cons_append]
  · rw [h] at hnil
    cases hnil

/-- Blanks and comments first, where they do not count, and then a scanner. -/
lemma Scans.skip {read : List Char → Option (α × List Char)} (h : Scans read) (f : Flags) :
    Scans fun cs => read (skipBlanks f cs) :=
  (scans_skipBlanks f).bind fun _ => h

end RadarConform.Pattern
