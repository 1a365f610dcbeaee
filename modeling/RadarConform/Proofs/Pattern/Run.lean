import RadarConform.Proofs.Pattern.Step

/-!
# Reading a pattern inside open groups

While the text of a pattern is read, the groups that were open before wait on the stack.  Nothing
looks at them, except a closing parenthesis that closes one group more than the text opens.

* `step_inGroups` — a step with more groups open outside.
* `run_nil`, `run_cons`, `run_induction` — the run as a loop over steps.
* `run_beyond` — **a text that can be read** is read the same inside open groups, and the closing
  parenthesis after it is reached, or the text ends in a comment that takes it in.
* `run_failed` — a text that cannot be read is not read inside a group either, unless it
  **closes the group early**: a beginning of the text can be read and a closing parenthesis follows
  it (`ClosesEarly`).
-/

namespace RadarConform.Pattern.Reading

/-! ## Groups outside -/

/-- A reading with more groups open around those that are. -/
def inGroups (r : Reading) (outer : List Group) : Reading := { r with groups := r.groups ++ outer }

@[simp] lemma inGroups_flags (r : Reading) (outer : List Group) :
    (r.inGroups outer).flags = r.flags := rfl

@[simp] lemma inGroups_groups (r : Reading) (outer : List Group) :
    (r.inGroups outer).groups = r.groups ++ outer := rfl

lemma inGroups_nil (r : Reading) : r.inGroups [] = r := by simp [inGroups]

/-- What a reader of parts gives inside more groups. -/
def allInGroups (outer : List Group) (p : Reading × List Char) : Reading × List Char :=
  (p.1.inGroups outer, p.2)

section Outer

variable (r : Reading) (outer : List Group)

lemma leave_inGroups (h : r.groups ≠ []) :
    (r.inGroups outer).leave = r.leave.map (·.inGroups outer) := by
  obtain ⟨g, groups, hgroups⟩ := List.exists_cons_of_ne_nil h
  simp only [leave, inGroups_groups, hgroups, List.cons_append, Option.map_some]
  rfl

lemma repeatLast_inGroups (least : Nat) (most : Option Nat) (lazily : Bool) :
    (r.inGroups outer).repeatLast least most lazily =
      (r.repeatLast least most lazily).map (·.inGroups outer) := by
  unfold repeatLast
  cases hitems : r.items with
  | nil => simp [inGroups, hitems]
  | cons item items =>
      simp only [inGroups, hitems]
      split <;> rfl

lemma repeatMarked_inGroups (least : Nat) (most : Option Nat) (cs : List Char) :
    (r.inGroups outer).repeatMarked least most cs =
      (r.repeatMarked least most cs).map (allInGroups outer) := by
  unfold repeatMarked
  split
  · rw [repeatLast_inGroups]
    cases r.repeatLast least most true <;> rfl
  · rw [repeatLast_inGroups]
    cases r.repeatLast least most false <;> rfl

lemma map_onHead {β γ : Type} (g : β → γ) (d : Char) (next other : List Char → β)
    (cs : List Char) :
    g (onHead d next other cs) = onHead d (fun cs => g (next cs)) (fun cs => g (other cs)) cs := by
  cases cs with
  | nil => rfl
  | cons c cs => simp only [onHead, apply_ite g]

lemma enterNamed_inGroups (cs : List Char) :
    (r.inGroups outer).enterNamed cs = (r.enterNamed cs).map (allInGroups outer) := by
  unfold enterNamed
  cases readName cs with
  | none => rfl
  | some p =>
      show (if r.names.contains p.1 then none else _) =
        (if r.names.contains p.1 then none else _ : Option (Reading × List Char)).map _
      rw [apply_ite (Option.map (allInGroups outer))]
      rfl

lemma readModal_inGroups (s : Flags × Bool × List Char) (cs : List Char) :
    (r.inGroups outer).readModal s cs = (r.readModal s cs).map (allInGroups outer) := by
  unfold readModal
  cases readModes s.1 s.2.1 s.2.2 cs with
  | none => rfl
  | some p =>
      simp only [Option.bind_some]
      split
      · by_cases h : p.2.1 = []
        · simp only [if_pos h, Option.map_none]
        · simp only [if_neg h]
          rfl
      · rfl
      · rfl

lemma readSpecial_inGroups (cs : List Char) :
    (r.inGroups outer).readSpecial cs = (r.readSpecial cs).map (allInGroups outer) := by
  have hname : (r.inGroups outer).enterNamed =
      fun cs => (r.enterNamed cs).map (allInGroups outer) :=
    funext (r.enterNamed_inGroups outer)
  have hmodal : (r.inGroups outer).readModal (r.flags, true, []) =
      fun cs => (r.readModal (r.flags, true, []) cs).map (allInGroups outer) :=
    funext (r.readModal_inGroups outer _)
  unfold readSpecial
  simp only [inGroups_flags, hname, hmodal, map_onHead (Option.map (allInGroups outer)),
    Option.map_none]

lemma readGroup_inGroups (cs : List Char) :
    (r.inGroups outer).readGroup cs = (r.readGroup cs).map (allInGroups outer) := by
  have hspecial : (r.inGroups outer).readSpecial =
      fun cs => (r.readSpecial cs).map (allInGroups outer) :=
    funext (r.readSpecial_inGroups outer)
  rw [readGroup_eq, readGroup_eq, map_onHead (Option.map (allInGroups outer)), hspecial]
  rfl

/-- **A step inside more groups** does the same, as long as it does not close one of them. -/
lemma step_inGroups {c : Char} (h : c ≠ ')' ∨ r.groups ≠ []) (cs : List Char) :
    (r.inGroups outer).step c cs = (r.step c cs).map (allInGroups outer) := by
  unfold step
  split
  · exact r.readGroup_inGroups outer cs
  · rw [r.leave_inGroups outer (h.resolve_left (absurd rfl))]
    cases r.leave <;> rfl
  · rfl
  · rw [inGroups_flags]
    cases readBracket r.flags cs <;> rfl
  · exact r.repeatMarked_inGroups outer 0 (some 1) cs
  · exact r.repeatMarked_inGroups outer 0 none cs
  · exact r.repeatMarked_inGroups outer 1 none cs
  · rw [inGroups_flags]
    cases readCounts r.flags cs with
    | none => rfl
    | some p => exact r.repeatMarked_inGroups outer p.1 p.2.1 _
  · rw [inGroups_flags]
    cases readEscape r.flags cs with
    | none => rfl
    | some p =>
        simp only [Option.bind_eq_bind, Option.bind_some]
        cases escapePattern? r.flags p.1 <;> rfl
  · rw [inGroups_flags]
    cases anySet? r.flags <;> rfl
  · rfl
  · rfl
  · rfl

end Outer

/-! ## Runs -/

lemma run_nil {r : Reading} {cs : List Char} (h : skipBlanks r.flags cs = []) :
    r.run cs = some r := by
  rw [run, h]

/-- A step leaves less to read. -/
lemma length_of_step {r r' : Reading} {c : Char} {cs rest after : List Char}
    (hskip : skipBlanks r.flags cs = c :: rest) (hstep : r.step c rest = some (r', after)) :
    after.length < cs.length := by
  have hrest := (skipBlanks_suffix r.flags cs).length_le
  have hafter := (step_suffix hstep).length_le
  rw [hskip, List.length_cons] at hrest
  omega

lemma run_cons {r : Reading} {c : Char} {cs rest : List Char}
    (h : skipBlanks r.flags cs = c :: rest) :
    r.run cs = (r.step c rest).bind fun p => p.1.run p.2 := by
  rw [run, h]
  dsimp only
  cases hstep : r.step c rest with
  | none => rfl
  | some p => exact if_pos (length_of_step h hstep)

/-- **Induction over a run**: it ends, or a step comes before the rest of it. -/
theorem run_induction {P : Reading → List Char → Prop}
    (ended : ∀ r cs, skipBlanks r.flags cs = [] → P r cs)
    (next : ∀ r cs c rest, skipBlanks r.flags cs = c :: rest →
      (∀ r₁ after, r.step c rest = some (r₁, after) → P r₁ after) → P r cs)
    (r : Reading) (cs : List Char) : P r cs := by
  induction hn : cs.length using Nat.strongRecOn generalizing r cs with
  | ind n ih =>
  cases hskip : skipBlanks r.flags cs with
  | nil => exact ended r cs hskip
  | cons c rest =>
      refine next r cs c rest hskip fun r₁ after hstep => ?_
      exact ih after.length (hn ▸ length_of_step hskip hstep) r₁ after rfl

/-- Where blanks count, every character starts a part. -/
lemma run_plain {r : Reading} (h : r.flags.ignoreBlanks = false) (c : Char) (cs : List Char) :
    r.run (c :: cs) = (r.step c cs).bind fun p => p.1.run p.2 :=
  run_cons (by simp [skipBlanks, h])

/-- Blanks before a text do not matter. -/
lemma run_congr {r : Reading} {cs cs' : List Char}
    (h : skipBlanks r.flags cs = skipBlanks r.flags cs') : r.run cs = r.run cs' := by
  cases hcs : skipBlanks r.flags cs' with
  | nil => rw [run_nil (h.trans hcs), run_nil hcs]
  | cons c rest => rw [run_cons (h.trans hcs), run_cons hcs]

lemma skipBlanks_nil (f : Flags) : skipBlanks f [] = [] :=
  List.suffix_nil.mp (skipBlanks_suffix f [])

lemma skipBlanks_of_not_blank {f : Flags} {c : Char} (hblank : Text.isBlank c = false)
    (hmark : c ≠ '#') (cs : List Char) : skipBlanks f (c :: cs) = c :: cs := by
  unfold skipBlanks
  split
  · simp [skipFrom, hblank, hmark]
  · rfl

lemma skipBlanks_close (f : Flags) (k : List Char) : skipBlanks f (')' :: k) = ')' :: k :=
  skipBlanks_of_not_blank (by decide) (by decide) k

/-- No step closes a group when none is open. -/
lemma closes_of_step {r : Reading} {c : Char} {cs : List Char} (h : r.step c cs ≠ none) :
    c ≠ ')' ∨ r.groups ≠ [] := by
  by_cases hc : c = ')'
  · subst hc
    refine .inr fun hgroups => h ?_
    simp [step, leave, hgroups]
  · exact .inl hc

/-- **A text that can be read** leaves the parenthesis behind it, whatever groups are open outside,
or takes it in. -/
theorem run_beyond {r r' : Reading} {cs : List Char} (h : r.run cs = some r') :
    (∀ outer k, (r.inGroups outer).run (cs ++ ')' :: k) = (r'.inGroups outer).run (')' :: k)) ∨
      ∀ outer k, '\n' ∉ k → (r.inGroups outer).run (cs ++ ')' :: k) = some (r'.inGroups outer) := by
  induction r, cs using run_induction with
  | ended r cs hskip =>
      rw [run_nil hskip, Option.some.injEq] at h
      subst h
      rcases skipBlanks_beyond r.flags cs with hkept | ⟨-, hswallowed, -⟩
      · refine .inl fun outer k => run_congr ?_
        rw [inGroups_flags, hkept, hskip, skipBlanks_close]
        rfl
      · exact .inr fun outer k hk => run_nil (hswallowed k hk)
  | next r cs c rest hskip ih =>
      rw [run_cons hskip] at h
      obtain ⟨⟨r₁, after⟩, hstep, hrun⟩ := Option.bind_eq_some_iff.mp h
      have hlong (outer : List Group) (k : List Char) :
          (r.inGroups outer).run (cs ++ ')' :: k) =
            ((r.step c (rest ++ ')' :: k)).map (allInGroups outer)).bind fun p => p.1.run p.2 := by
        rw [run_cons (r := r.inGroups outer) (skipBlanks_append hskip k),
          r.step_inGroups outer (closes_of_step (by rw [hstep]; simp))]
      have hbeyond : Extends (r.step c rest) fun k => r.step c (rest ++ ')' :: k) := by
        rcases r.step_beyond c rest with hbeyond | ⟨hnone, -⟩
        · exact hbeyond
        · rw [hstep] at hnone
          cases hnone
      rw [hstep] at hbeyond
      cases hbeyond with
      | kept hkept =>
          have hafter (outer : List Group) (k : List Char) :
              (r.inGroups outer).run (cs ++ ')' :: k) =
                (r₁.inGroups outer).run (after ++ ')' :: k) := by
            have hread : r.step c (rest ++ ')' :: k) = some (r₁, after ++ ')' :: k) := hkept k
            rw [hlong, hread]
            rfl
          simpa only [hafter] using ih r₁ after hstep hrun
      | swallowed hswallowed _ =>
          rw [run_nil (skipBlanks_nil r₁.flags), Option.some.injEq] at hrun
          subst hrun
          refine .inr fun outer k hk => ?_
          have hread : r.step c (rest ++ ')' :: k) = some (r₁, []) := hswallowed k hk
          rw [hlong, hread]
          exact run_nil (skipBlanks_nil r₁.flags)

/-! ## Texts that cannot be read -/

/-- A text closes a group that it did not open: a beginning of it can be read, no group is open
there, and the parenthesis that follows cannot be read. -/
def ClosesEarly (r : Reading) (cs : List Char) : Prop :=
  ∃ u v, cs = u ++ ')' :: v ∧ (∃ r', r.run u = some r' ∧ r'.groups = []) ∧ r.run (u ++ [')']) = none

/-- Blanks that end before the parenthesis end there without it, too. -/
lemma skipBlanks_of_append {f : Flags} {cs rest k : List Char}
    (h : skipBlanks f (cs ++ ')' :: k) = rest ++ ')' :: k) :
    skipBlanks f cs = rest ∧ ∀ k, skipBlanks f (cs ++ ')' :: k) = rest ++ ')' :: k := by
  obtain ⟨hskip, hkept⟩ := ((scans_skipBlanks f).beyond cs).of_kept (k := k) (a := ()) (by rw [h])
  exact ⟨congrArg Prod.snd (Option.some.inj hskip),
    fun k => congrArg Prod.snd (Option.some.inj (hkept k))⟩

/-- A brace with nothing after it is not read. -/
lemma step_brace_of_blank {r : Reading} {rest : List Char} (h : skipBlanks r.flags rest = []) :
    r.step '\x7b' rest = none := by
  simp only [step, readCounts, h]
  rfl

lemma run_brace_of_blank {r : Reading} {rest : List Char} (h : skipBlanks r.flags rest = []) :
    r.run ('\x7b' :: rest) = none := by
  rw [run_cons (skipBlanks_of_not_blank (by decide) (by decide) rest), step_brace_of_blank h]
  rfl

/-- The anchor at the end opens and closes nothing. -/
lemma run_groups_of_suffix {r r' : Reading} {cs : List Char} (hcs : cs <:+ ['$'])
    (h : r.run cs = some r') : r'.groups = r.groups := by
  rcases List.suffix_cons_iff.mp hcs with rfl | hnil
  · rw [run_cons (skipBlanks_of_not_blank (by decide) (by decide) [])] at h
    simp only [step, Option.bind_some, run_nil (skipBlanks_nil _), Option.some.injEq] at h
    rw [← h]
    rfl
  · rw [List.suffix_nil.mp hnil, run_nil (skipBlanks_nil _), Option.some.injEq] at h
    rw [← h]

/-- What closes a group early after a step does so before it. -/
lemma ClosesEarly.of_step {r r₁ : Reading} {c : Char} {cs rest after : List Char}
    (hskip : skipBlanks r.flags cs = c :: rest) (hstep : r.step c rest = some (r₁, after))
    (h : r₁.ClosesEarly after) : r.ClosesEarly cs := by
  obtain ⟨u, v, rfl, ⟨r', hrun, hgroups⟩, hclose⟩ := h
  obtain ⟨q, rfl⟩ := step_suffix hstep
  obtain ⟨p, hp⟩ := skipBlanks_suffix r.flags cs
  rw [hskip] at hp
  subst hp
  have hblanks : skipBlanks r.flags (p ++ c :: (q ++ u)) = c :: (q ++ u) ∧
      ∀ k, skipBlanks r.flags ((p ++ c :: (q ++ u)) ++ ')' :: k) = c :: ((q ++ u) ++ ')' :: k) :=
    skipBlanks_of_append (k := v) (by simpa using hskip)
  have hlong : r.step c ((q ++ u) ++ ')' :: v) = some (r₁, u ++ ')' :: v) := by simpa using hstep
  -- the step stops before `u`, so it does not depend on the parenthesis behind `u`
  have hread : r.step c (q ++ u) = some (r₁, u) ∧
      ∀ k, r.step c ((q ++ u) ++ ')' :: k) = some (r₁, u ++ ')' :: k) := by
    rcases r.step_beyond c (q ++ u) with hbeyond | ⟨-, r₂, rest, hflags, hblank, hread⟩
    · exact hbeyond.of_kept hlong
    · rcases hread v r₁ _ hlong with hintrudes | ⟨rfl, hu⟩
      · exact absurd hintrudes not_suffix_of_append
      · obtain rfl : u = '\x7b' :: rest := List.append_cancel_right hu
        rw [run_brace_of_blank (by rw [hflags, hblank])] at hrun
        cases hrun
  refine ⟨p ++ c :: (q ++ u), v, by simp, ⟨r', ?_, hgroups⟩, ?_⟩
  · rw [run_cons hblanks.1, hread.1]
    exact hrun
  · rw [run_cons (hblanks.2 []), hread.2 []]
    exact hclose

/-- A parenthesis that closes a group when none is open closes it early. -/
lemma closesEarly_of_skipBlanks {r : Reading} {cs rest : List Char}
    (hskip : skipBlanks r.flags cs = ')' :: rest) (hgroups : r.groups = []) : r.ClosesEarly cs := by
  obtain ⟨u, hu⟩ := skipBlanks_suffix r.flags cs
  rw [hskip] at hu
  subst hu
  have hblanks : skipBlanks r.flags u = [] ∧
      ∀ k, skipBlanks r.flags (u ++ ')' :: k) = ')' :: k := skipBlanks_of_append (k := rest) hskip
  refine ⟨u, rest, rfl, ⟨r, run_nil hblanks.1, hgroups⟩, ?_⟩
  rw [run_cons (hblanks.2 [])]
  simp [step, leave, hgroups]

/-- The end of the text cannot close the group `g`, nor open it. -/
lemma groups_of_intrusion {r r' : Reading} {g : Group} {after : List Char} (h : after <:+ ['$'])
    (hrun : (r.inGroups [g]).run after = some r') : r'.groups ≠ [] := by
  rw [run_groups_of_suffix h hrun]
  simp

/-- A brace that is not finished takes in the parenthesis that closes the group. -/
lemma groups_of_brace {r r' : Reading} {g : Group} {rest : List Char}
    (h : skipBlanks r.flags rest = [])
    (hrun : (r.inGroups [g]).run ('\x7b' :: rest ++ [')', '$']) = some r') : r'.groups ≠ [] := by
  rw [List.cons_append, run_cons (skipBlanks_of_not_blank (by decide) (by decide) _),
    r.step_inGroups [g] (.inl (by decide))] at hrun
  obtain ⟨p, hp, hafter⟩ := Option.bind_eq_some_iff.mp hrun
  obtain ⟨⟨r₁, after⟩, hstep, rfl⟩ := Option.map_eq_some_iff.mp hp
  have hbeyond := r.scans_step_brace.beyond rest
  rw [step_brace_of_blank h] at hbeyond
  cases hbeyond with
  | failed hintrudes => exact groups_of_intrusion (hintrudes ['$'] r₁ after hstep) hafter

/-- **A text that cannot be read** does not end with the group `g` closed, unless it closes it
early. -/
theorem run_failed {r r' : Reading} {cs : List Char} {g : Group} (h : r.run cs = none)
    (hlong : (r.inGroups [g]).run (cs ++ [')', '$']) = some r') :
    r'.groups ≠ [] ∨ r.ClosesEarly cs := by
  induction r, cs using run_induction with
  | ended r cs hskip =>
      rw [run_nil hskip] at h
      cases h
  | next r cs c rest hskip ih =>
      rw [run_cons hskip] at h
      -- where the text closes the group itself the steps part; otherwise they are the same
      by_cases hclose : c = ')' ∧ r.groups = []
      · obtain ⟨rfl, hgroups⟩ := hclose
        exact .inr (closesEarly_of_skipBlanks hskip hgroups)
      have hopen : c ≠ ')' ∨ r.groups ≠ [] := Classical.not_and_iff_not_or_not.mp hclose
      rw [run_cons (r := r.inGroups [g]) (skipBlanks_append hskip ['$']),
        r.step_inGroups [g] hopen] at hlong
      obtain ⟨p, hp, hrun⟩ := Option.bind_eq_some_iff.mp hlong
      obtain ⟨⟨r₁, after⟩, hstep, rfl⟩ := Option.map_eq_some_iff.mp hp
      rcases r.step_beyond c rest with hbeyond | ⟨-, r₂, blanks, hflags, hblank, hread⟩
      · generalize hshort : r.step c rest = x at hbeyond h
        cases hbeyond with
        | @kept r₂ mid _ hkept =>
            have hread : r.step c (rest ++ [')', '$']) = some (r₂, mid ++ [')', '$']) := hkept ['$']
            rw [hstep, Option.some.injEq, Prod.mk.injEq] at hread
            obtain ⟨rfl, rfl⟩ := hread
            rcases ih r₁ mid hshort h hrun with hgroups | hearly
            · exact .inl hgroups
            · exact .inr (hearly.of_step hskip hshort)
        | swallowed _ _ =>
            rw [Option.bind_some, run_nil (skipBlanks_nil _)] at h
            cases h
        | failed hintrudes =>
            exact .inl (groups_of_intrusion (hintrudes ['$'] r₁ after hstep) hrun)
      · rcases hread ['$'] r₁ after hstep with hintrudes | ⟨rfl, rfl⟩
        · exact .inl (groups_of_intrusion hintrudes hrun)
        · exact .inl (groups_of_brace (by rw [hflags, hblank]) hrun)

end RadarConform.Pattern.Reading
