import RadarConform.Pattern.Reader
import RadarConform.Proofs.Pattern.Bracket

/-!
# One step of the reader

Every part that a step reads is a scanner, and so is the step, but for the brace after `\b`.

* `scans_readGroup`, `scans_repeatMarked`, `scans_readCount` — what follows an opening parenthesis
  and the marks of repetitions.
* `step_suffix`, `step_beyond` — a step on a text with a parenthesis after it.
-/

namespace RadarConform.Pattern.Reading

/-! ## Groups -/

/-- A name from its characters and from what follows them. -/
def nameOf (name : List Char) : List Char → Option (List Char × List Char)
  | '>' :: after =>
    match name with
    | c :: rest =>
      if isNameChar true c && rest.all (isNameChar false) then some (name, after) else none
    | [] => none
  | _ => none

lemma nameOf_of_ne {name cs : List Char} (h : ∀ rest, cs ≠ '>' :: rest) :
    nameOf name cs = none := by
  unfold nameOf
  split
  · exact absurd rfl (h _)
  · rfl

lemma readName_eq (cs : List Char) :
    readName cs = nameOf (cs.takeWhile (· != '>')) (cs.dropWhile (· != '>')) := by
  simp only [readName]
  split
  · next hname hrest =>
      rw [hname, hrest]
      rfl
  · next h =>
      by_cases hrest : ∃ after, cs.dropWhile (· != '>') = '>' :: after
      · obtain ⟨after, hrest⟩ := hrest
        rw [hrest]
        cases hname : cs.takeWhile (· != '>') with
        | nil => rfl
        | cons c rest => exact (h c rest after hname hrest).elim
      · simp only [not_exists] at hrest
        rw [nameOf_of_ne hrest]

lemma nameOf_suffix {name cs rest : List Char} {a : List Char}
    (h : nameOf name cs = some (a, rest)) : rest <:+ cs := by
  unfold nameOf at h
  split at h
  · split at h
    · split at h
      · cases h
        exact List.suffix_cons _ _
      · cases h
    · cases h
  · cases h

lemma nameOf_append {name cs : List Char} (hne : cs ≠ []) (k : List Char) :
    nameOf name (cs ++ k) = (nameOf name cs).map fun p => (p.1, p.2 ++ k) := by
  cases cs with
  | nil => exact absurd rfl hne
  | cons c cs =>
      by_cases hc : c = '>'
      · subst hc
        cases name with
        | nil => rfl
        | cons d name =>
            simp only [nameOf, List.cons_append]
            split <;> rfl
      · have hnone (cs : List Char) : nameOf name (c :: cs) = none :=
          nameOf_of_ne fun rest h => hc (List.cons.inj h).1
        rw [List.cons_append, hnone, hnone]
        rfl

lemma scans_readName : Scans readName where
  suffix {cs a rest} h := by
    rw [readName_eq] at h
    exact (nameOf_suffix h).trans (List.dropWhile_suffix _)
  beyond cs := by
    simp only [readName_eq]
    rcases cut_append (· != '>') cs with ⟨hne, h⟩ | ⟨hnil, h⟩
    · simp only [(h _).1, (h _).2, nameOf_append hne]
      cases nameOf (cs.takeWhile (· != '>')) (cs.dropWhile (· != '>')) with
      | none => exact .failed fun _ _ _ h => by cases h
      | some p => exact .kept fun _ => rfl
    · rw [hnil]
      refine .failed fun k a rest hread => ?_
      have hclose : (')' :: k).dropWhile (· != '>') = k.dropWhile (· != '>') := rfl
      simp only [(h _).2, hclose] at hread
      exact (nameOf_suffix hread).trans (List.dropWhile_suffix _)

lemma scans_enterNamed (r : Reading) : Scans r.enterNamed := by
  have hname : ∀ name : List Char, Scans fun cs =>
      if r.names.contains name then none
      else some (({ r.enterCapture with names := name :: r.names } : Reading), cs) :=
    fun _ => .ite scans_fail (scans_pure _)
  exact (scans_readName.bind hname).congr fun cs => rfl

/-- The reading in which other modes hold from now on; that is a part that cannot be repeated. -/
def setModes (r : Reading) (flags : Flags) : Reading :=
  { r with flags, items := { pattern := .empty, depth := 0, repeatable := false } :: r.items }

/-- A list of modes and what it is for: a group, after a colon, or all that follows, after a closing
parenthesis. -/
def readModal (r : Reading) (s : Flags × Bool × List Char) (cs : List Char) :
    Option (Reading × List Char) :=
  (readModes s.1 s.2.1 s.2.2 cs).bind fun p =>
    match p.2.2 with
    | ')' :: rest => if p.2.1 = [] then none else some (r.setModes p.1, rest)
    | _ :: rest => some (r.enter p.1, rest)
    | [] => none

/-- The end of a list of modes. -/
def modalEnd (r : Reading) (s : Flags × Bool × List Char) (c : Char) : Option Reading :=
  if s.2.2.head? = some '-' then none
  else if c = ')' then (if s.2.2 = [] then none else some (r.setModes s.1))
  else some (r.enter s.1)

lemma readModal_end (r : Reading) (s : Flags × Bool × List Char) {c : Char}
    (hc : c = ':' ∨ c = ')') (cs : List Char) :
    r.readModal s (c :: cs) = (r.modalEnd s c).map (·, cs) := by
  simp only [readModal, readModes, if_pos hc, modalEnd]
  split
  · rfl
  · rcases hc with rfl | rfl
    · rfl
    · simp only [Option.bind_some, if_true]
      split <;> rfl

lemma scans_readModal (r : Reading) (s : Flags × Bool × List Char) : Scans (r.readModal s) := by
  refine scans_until r.readModal (fun _ => rfl) ?_ s
  rintro ⟨f, value, seen⟩ c
  by_cases hend : c = ':' ∨ c = ')'
  · exact .inr ⟨_, r.readModal_end _ hend⟩
  by_cases hseen : seen.contains c = true
  · exact .inr ⟨none, fun cs => by simp only [readModal, readModes, if_neg hend, if_pos hseen]; rfl⟩
  by_cases hminus : c = '-'
  · refine .inl ⟨(f, false, c :: seen), id, fun cs => ?_⟩
    simp only [readModal, readModes, if_neg hend, if_neg hseen, if_pos hminus]
    simp
  · cases hassign : f.assign? c value with
    | none =>
        refine .inr ⟨none, fun cs => ?_⟩
        simp only [readModal, readModes, if_neg hend, if_neg hseen, if_neg hminus, hassign]
        rfl
    | some f' =>
        refine .inl ⟨(f', value, c :: seen), id, fun cs => ?_⟩
        simp only [readModal, readModes, if_neg hend, if_neg hseen, if_neg hminus, hassign]
        simp

/-- What follows the question mark of a group: a name, or modes.  Conditions on what stands before
or after are no patterns. -/
def readSpecial (r : Reading) : List Char → Option (Reading × List Char) :=
  onHead '=' (fun _ => none) (onHead '!' (fun _ => none)
    (onHead '<' (onHead '=' (fun _ => none) (onHead '!' (fun _ => none) r.enterNamed))
      (onHead 'P' (onHead '<' r.enterNamed fun _ => none) (r.readModal (r.flags, true, [])))))

lemma scans_readSpecial (r : Reading) : Scans r.readSpecial := by
  have hlook := @scans_fail Reading
  have hname := r.scans_enterNamed
  have hangle := scans_onHead (show '=' ≠ ')' by decide) hlook
    (scans_onHead (show '!' ≠ ')' by decide) hlook hname)
  have hpython := scans_onHead (show '<' ≠ ')' by decide) hname hlook
  exact scans_onHead (by decide) hlook (scans_onHead (by decide) hlook
    (scans_onHead (by decide) hangle (scans_onHead (by decide) hpython (r.scans_readModal _))))

/-- No mode has the letter `P`. -/
lemma readModal_P (r : Reading) (cs : List Char) :
    r.readModal (r.flags, true, []) ('P' :: cs) = none := rfl

lemma readGroup_eq (r : Reading) (cs : List Char) :
    r.readGroup cs =
      onHead '?' r.readSpecial (fun rest => some (r.enterCapture, rest))
        (skipBlanks r.flags cs) := by
  unfold readGroup
  split
  · next h => rw [h]; rfl
  · next h => rw [h]; rfl
  · next h => rw [h]; rfl
  · next h => rw [h]; rfl
  · next h => rw [h]; rfl
  · next rest hequals hnot h =>
      rw [h, onHead_cons]
      simp only [readSpecial, onHead_cons, onHead_of_ne (show ∀ l, '<' :: rest ≠ '=' :: l by simp),
        onHead_of_ne (show ∀ l, '<' :: rest ≠ '!' :: l by simp), onHead_of_ne hequals,
        onHead_of_ne hnot]
  · next rest hequals hnot _ _ hpython hname h =>
      have hmodal : r.readSpecial rest = r.readModal (r.flags, true, []) rest := by
        simp only [readSpecial, onHead_of_ne hequals, onHead_of_ne hnot, onHead_of_ne hname]
        by_cases hP : ∃ l, rest = 'P' :: l
        · obtain ⟨l, rfl⟩ := hP
          rw [onHead_cons, readModal_P, onHead_of_ne fun l' hl => hpython l' (by rw [hl])]
        · simp only [not_exists] at hP
          rw [onHead_of_ne hP]
      rw [h, onHead_cons, hmodal]
      simp only [readModal]
      cases readModes r.flags true [] rest with
      | none => rfl
      | some p => rfl
  · next hspecial =>
      rw [onHead_of_ne hspecial]

lemma scans_readGroup (r : Reading) : Scans r.readGroup :=
  ((scans_onHead (by decide) r.scans_readSpecial (scans_pure r.enterCapture)).skip r.flags).congr
    r.readGroup_eq

/-! ## Repetition -/

lemma scans_repeatMarked (r : Reading) (least : Nat) (most : Option Nat) :
    Scans (r.repeatMarked least most) := by
  have hlast (lazily : Bool) : Scans fun cs => (r.repeatLast least most lazily).map (·, cs) := by
    cases r.repeatLast least most lazily with
    | none => exact scans_fail
    | some r' => exact scans_pure r'
  refine (scans_onHead (show '?' ≠ ')' by decide) (hlast true) (hlast false)).congr fun cs => ?_
  unfold repeatMarked
  split
  · rfl
  · next h => rw [onHead_of_ne h]

lemma scans_digitRun (f : Flags) : Scans fun cs => some (digitRun f false cs) := by
  refine scans_run (digitRun f) (fun _ => rfl) ?_ ?_ false
  · intro comment c
    by_cases hcomment : comment = true
    · exact .inl ⟨c != '\n', id, fun cs => by rw [digitRun, if_pos hcomment]; rfl⟩
    · by_cases hdigit : ('0' ≤ c && c ≤ '9') = true
      · exact .inl ⟨false, (c :: ·), fun cs => by
          rw [digitRun, if_neg hcomment, if_pos hdigit]⟩
      · by_cases hblank : (f.ignoreBlanks && Text.isBlank c) = true
        · exact .inl ⟨false, id, fun cs => by
            rw [digitRun, if_neg hcomment, if_neg hdigit, if_pos hblank]; rfl⟩
        · by_cases hmark : (f.ignoreBlanks && c == '#') = true
          · exact .inl ⟨true, id, fun cs => by
              rw [digitRun, if_neg hcomment, if_neg hdigit, if_neg hblank, if_pos hmark]; rfl⟩
          · exact .inr fun cs => by
              rw [digitRun, if_neg hcomment, if_neg hdigit, if_neg hblank, if_neg hmark]
  · rintro (_ | _)
    · exact .inl fun k => by simp [digitRun, Text.isBlank]
    · refine .inr fun c cs hc => ?_
      have hc' : (c != '\n') = true := bne_iff_ne.mpr hc
      rw [digitRun, if_pos rfl, hc']

/-- A number of repetitions from its digits. -/
def countOf (f : Flags) (ds rest : List Char) : Option (Nat × List Char) :=
  let n := ds.foldl (fun n c => 10 * n + (c.toNat - 48)) 0
  if ds = [] ∨ UInt32.size ≤ n then none
  else some (n, skipBlanks f (rest.dropWhile Text.isBlank))

lemma scans_readCount (f : Flags) : Scans (readCount f) := by
  have hcount (ds : List Char) : Scans (countOf f ds) := by
    have hpure (n : Nat) : Scans fun cs => some (n, skipBlanks f (cs.dropWhile Text.isBlank)) :=
      scans_dropBlanks.bind fun _ => (scans_pure n).skip f
    exact .ite scans_fail (hpure _)
  exact (scans_dropBlanks.bind fun _ => (scans_digitRun f).bind hcount).congr fun cs => rfl

/-- The numbers of repetitions, from after the first. -/
def countsAfter (f : Flags) (least : Nat) : List Char → Option ((Nat × Option Nat) × List Char) :=
  onHead '\x7d' (fun rest => some ((least, some least), rest))
    (onHead ',' (fun rest =>
        onHead '\x7d' (fun rest => some ((least, none), rest))
          (fun rest => (readCount f rest).bind fun p =>
            onHead '\x7d'
              (fun rest => if least ≤ p.1 then some ((least, some p.1), rest) else none)
              (fun _ => none) p.2)
          (skipBlanks f rest))
      fun _ => none)

lemma scans_countsAfter (f : Flags) (least : Nat) : Scans (countsAfter f least) := by
  have hend (most : Nat) : Scans (onHead '\x7d'
      (fun rest => if least ≤ most then some ((least, some most), rest) else none)
      fun _ => none) :=
    scans_onHead (by decide) (.ite (scans_pure _) scans_fail) scans_fail
  have hmost := scans_onHead (show '\x7d' ≠ ')' by decide) (scans_pure (least, (none : Option Nat)))
    ((scans_readCount f).bind hend)
  exact scans_onHead (by decide) (scans_pure _)
    (scans_onHead (by decide) (hmost.skip f) scans_fail)

lemma readCounts_eq (f : Flags) (cs : List Char) :
    readCounts f cs = ((readCount f (skipBlanks f cs)).bind fun p => countsAfter f p.1 p.2).map
      fun p => (p.1.1, p.1.2, p.2) := by
  unfold readCounts
  cases readCount f (skipBlanks f cs) with
  | none => rfl
  | some p =>
      obtain ⟨least, rest⟩ := p
      simp only [Option.bind_eq_bind, Option.bind_some, countsAfter]
      split
      · rfl
      · next rest =>
          rw [onHead_of_ne (by simp), onHead_cons]
          split
          · next h =>
              rw [h]
              rfl
          · next h =>
              rw [onHead_of_ne h]
              cases readCount f (skipBlanks f rest) with
              | none => rfl
              | some q =>
                  obtain ⟨most, rest⟩ := q
                  simp only [Option.bind_some]
                  split
                  · rw [onHead_cons]
                    split <;> rfl
                  · next h =>
                      rw [onHead_of_ne h]
                      rfl
      · next hclose hcomma =>
          rw [onHead_of_ne hclose, onHead_of_ne hcomma]
          rfl

/-! ## Steps -/

lemma scans_step_brace (r : Reading) : Scans (r.step '\x7b') := by
  have hcounts := (((scans_readCount r.flags).bind (scans_countsAfter r.flags)).skip r.flags).bind
    fun p => (r.scans_repeatMarked p.1 p.2).skip r.flags
  refine hcounts.congr fun cs => ?_
  simp only [step, readCounts_eq]
  cases (readCount r.flags (skipBlanks r.flags cs)).bind fun p => countsAfter r.flags p.1 p.2 with
  | none => rfl
  | some p => rfl

/-- Every step but the one at a backslash. -/
lemma scans_step (r : Reading) {c : Char} (hc : c ≠ '\\') : Scans (r.step c) := by
  show Scans fun cs => r.step c cs
  by_cases hbrace : c = '\x7b'
  · subst hbrace
    exact r.scans_step_brace
  unfold step
  split
  · exact r.scans_readGroup
  · cases r.leave with
    | none => exact scans_fail
    | some r' => exact scans_pure r'
  · exact scans_pure _
  · refine ((scans_readBracket r.flags).map fun part => r.add (.one part.set) part.depth).congr
      fun cs => ?_
    cases readBracket r.flags cs <;> rfl
  · exact r.scans_repeatMarked 0 (some 1)
  · exact r.scans_repeatMarked 0 none
  · exact r.scans_repeatMarked 1 none
  · exact absurd rfl hbrace
  · exact absurd rfl hc
  · cases anySet? r.flags with
    | none => exact scans_fail
    | some s => exact scans_pure _
  · exact scans_pure _
  · exact scans_pure _
  · exact scans_pure _

lemma step_backslash (r : Reading) (cs : List Char) :
    r.step '\\' cs = (readEscape r.flags cs).bind fun p =>
      (escapePattern? r.flags p.1).map fun q => (r.add q 0, p.2) := by
  simp only [step]
  cases readEscape r.flags cs with
  | none => rfl
  | some p => cases h : escapePattern? r.flags p.1 <;> simp [h]

lemma step_suffix {r r' : Reading} {c : Char} {cs rest : List Char}
    (h : r.step c cs = some (r', rest)) : rest <:+ cs := by
  by_cases hc : c = '\\'
  · subst hc
    rw [step_backslash] at h
    obtain ⟨⟨e, mid⟩, hread, hmid⟩ := Option.bind_eq_some_iff.mp h
    obtain ⟨q, -, heq⟩ := Option.map_eq_some_iff.mp hmid
    cases heq
    exact readEscape_suffix hread
  · exact (r.scans_step hc).suffix h

/-- **One step with a parenthesis after the text.**  Where the brace of a boundary is not finished,
the modes stay the same. -/
lemma step_beyond (r : Reading) (c : Char) (cs : List Char) :
    Extends (r.step c cs) (fun k => r.step c (cs ++ ')' :: k)) ∨
      (r.step c cs = none ∧ ∃ r' rest, r'.flags = r.flags ∧ skipBlanks r.flags rest = [] ∧
        ∀ k b after, r.step c (cs ++ ')' :: k) = some (b, after) →
          after <:+ k ∨ (b = r' ∧ after = '\x7b' :: rest ++ ')' :: k)) := by
  by_cases hc : c = '\\'
  · subst hc
    simp only [step_backslash]
    have hpattern (e : Escape) : Scans fun cs =>
        (escapePattern? r.flags e).map fun q => (r.add q 0, cs) := by
      cases escapePattern? r.flags e with
      | none => exact scans_fail
      | some q => exact scans_pure _
    rcases readEscape_beyond r.flags cs with h | ⟨hnone, e, rest, hskip, hread⟩
    · exact .inl (h.bind (fun e _ _ _ => (hpattern e).suffix)
        fun e rest _ => (hpattern e).beyond rest)
    · refine .inr ⟨by rw [hnone]; rfl, r.add ((escapePattern? r.flags e).getD .empty) 0, rest, rfl,
        hskip, fun k b after h => ?_⟩
      obtain ⟨⟨e', mid⟩, he, hmid⟩ := Option.bind_eq_some_iff.mp h
      obtain ⟨q, hq, heq⟩ := Option.map_eq_some_iff.mp hmid
      cases heq
      rcases hread k e' mid he with hintrudes | ⟨rfl, hrest⟩
      · exact .inl hintrudes
      · exact .inr ⟨by rw [hq]; rfl, hrest⟩
  · exact .inl ((r.scans_step hc).beyond cs)

end RadarConform.Pattern.Reading
