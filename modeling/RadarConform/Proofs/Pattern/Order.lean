import RadarConform.Proofs.Pattern.Run
import RadarConform.Proofs.Pattern.Search

/-!
# Repetitions in a pattern that was read

The search rests on the numbers of a repetition being in order, the least one before the greatest.
A constraint gets no pattern in which they are not, since the reader compares them.

* `Orderly` — the invariant of a reading: everything that was read so far is in order.
* `keeps_step`, `orderly_of_run` — a step keeps it, and so does a run.
-/

namespace RadarConform.Pattern.Reading

/-! ## The invariant -/

/-- In every repetition of the items the numbers are in order. -/
def AllOrdered (items : List Item) : Prop := ∀ item ∈ items, item.pattern.Ordered

/-- In every repetition read so far, in the open groups as well, the numbers are in order. -/
structure Orderly (r : Reading) : Prop where
  branches : AllOrdered r.branches
  items : AllOrdered r.items
  groups : ∀ g ∈ r.groups, AllOrdered g.branches ∧ AllOrdered g.items

lemma orderly_initial : initial.Orderly where
  branches _ h := by cases h
  items _ h := by cases h
  groups _ h := by cases h

lemma allOrdered_nil : AllOrdered [] := fun _ h => by cases h

lemma allOrdered_cons {item : Item} {items : List Item} :
    AllOrdered (item :: items) ↔ item.pattern.Ordered ∧ AllOrdered items :=
  List.forall_mem_cons

/-- Items put together one by one. -/
lemma ordered_foldl {f : Pattern → Pattern → Pattern}
    (hf : ∀ p q, p.Ordered → q.Ordered → (f p q).Ordered) {items : List Item}
    (h : AllOrdered items) {p : Pattern} (hp : p.Ordered) :
    (items.foldl (fun p before => f before.pattern p) p).Ordered := by
  induction items generalizing p with
  | nil => exact hp
  | cons item items ih =>
      rw [allOrdered_cons] at h
      exact ih h.2 (hf _ _ h.1 hp)

lemma ordered_sequence {items : List Item} (h : AllOrdered items) :
    (sequence items).pattern.Ordered := by
  match items with
  | [] => trivial
  | [item] => exact (allOrdered_cons.mp h).1
  | item :: second :: items =>
      rw [allOrdered_cons] at h
      exact ordered_foldl (f := .seq) (fun _ _ hp hq => ⟨hp, hq⟩) h.2 h.1

lemma ordered_alternatives {branches : List Item} (h : AllOrdered branches) :
    (alternatives branches).pattern.Ordered := by
  match branches with
  | [] => trivial
  | [branch] => exact (allOrdered_cons.mp h).1
  | branch :: second :: branches =>
      rw [allOrdered_cons] at h
      exact ordered_foldl (f := .alt) (fun _ _ hp hq => ⟨hp, hq⟩) h.2 h.1

section Parts

variable {r r' : Reading} (h : r.Orderly)

include h

lemma Orderly.content : r.content.pattern.Ordered :=
  ordered_alternatives (allOrdered_cons.mpr ⟨ordered_sequence h.items, h.branches⟩)

lemma Orderly.add {p : Pattern} (hp : p.Ordered) (depth : Nat) : (r.add p depth).Orderly :=
  ⟨h.branches, allOrdered_cons.mpr ⟨hp, h.items⟩, h.groups⟩

lemma Orderly.setModes (f : Flags) : (r.setModes f).Orderly :=
  ⟨h.branches, allOrdered_cons.mpr ⟨trivial, h.items⟩, h.groups⟩

lemma Orderly.enter (f : Flags) : (r.enter f).Orderly :=
  ⟨allOrdered_nil, allOrdered_nil, List.forall_mem_cons.mpr ⟨⟨h.branches, h.items⟩, h.groups⟩⟩

lemma Orderly.enterCapture : r.enterCapture.Orderly :=
  ⟨allOrdered_nil, allOrdered_nil, List.forall_mem_cons.mpr ⟨⟨h.branches, h.items⟩, h.groups⟩⟩

lemma Orderly.leave (hleave : r.leave = some r') : r'.Orderly := by
  unfold Reading.leave at hleave
  split at hleave
  · cases hleave
  · next g groups hgroups =>
      cases hleave
      have hg := h.groups
      rw [hgroups, List.forall_mem_cons] at hg
      exact ⟨hg.1.1, allOrdered_cons.mpr ⟨h.content, hg.1.2⟩, hg.2⟩

lemma Orderly.repeatLast {least : Nat} {most : Option Nat} {lazily : Bool}
    (hmost : ∀ m, most = some m → least ≤ m) (hlast : r.repeatLast least most lazily = some r') :
    r'.Orderly := by
  unfold Reading.repeatLast at hlast
  split at hlast
  · cases hlast
  · next item items hitems =>
      have hi := h.items
      rw [hitems, allOrdered_cons] at hi
      split at hlast
      · cases hlast
        exact ⟨h.branches, allOrdered_cons.mpr ⟨⟨hi.1, hmost⟩, hi.2⟩, h.groups⟩
      · cases hlast

end Parts

/-! ## Steps -/

/-- Whatever is read is in order. -/
def Keeps (x : Option (Reading × List Char)) : Prop := ∀ p, x = some p → p.1.Orderly

lemma keeps_none : Keeps none := fun _ h => by cases h

lemma keeps_some {r : Reading} {cs : List Char} (h : r.Orderly) : Keeps (some (r, cs)) :=
  fun _ hp => by
    cases hp
    exact h

/-- What holds of both ways to read on holds of the choice between them. -/
lemma forall_onHead {β : Type} {P : β → Prop} {d : Char} {next other : List Char → β}
    (h : ∀ cs, P (next cs)) (h' : ∀ cs, P (other cs)) (cs : List Char) :
    P (onHead d next other cs) := by
  cases cs with
  | nil => exact h' []
  | cons c cs =>
      show P (if c = d then next cs else other (c :: cs))
      split
      · exact h cs
      · exact h' (c :: cs)

/-- The numbers between braces are in order. -/
lemma readCounts_le {f : Flags} {cs rest : List Char} {least : Nat} {most : Option Nat}
    (h : readCounts f cs = some (least, most, rest)) : ∀ m, most = some m → least ≤ m := by
  let P (x : Option ((Nat × Option Nat) × List Char)) : Prop :=
    ∀ p, x = some p → ∀ m, p.1.2 = some m → p.1.1 ≤ m
  have hnone : P none := fun _ hp => by cases hp
  have hsame (n : Nat) (rest : List Char) : P (some ((n, some n), rest)) := fun _ hp m hm => by
    cases hp
    cases hm
    exact Nat.le_refl n
  have hopen (n : Nat) (rest : List Char) : P (some ((n, none), rest)) := fun _ hp m hm => by
    cases hp
    cases hm
  have htest (n m : Nat) (rest : List Char) :
      P (if n ≤ m then some ((n, some m), rest) else none) := by
    split
    · next hle =>
        intro _ hp k hk
        cases hp
        cases hk
        exact hle
    · exact hnone
  have hafter (n : Nat) (cs : List Char) : P (countsAfter f n cs) := by
    refine forall_onHead (P := P) (hsame n) (forall_onHead (fun cs => ?_) fun _ => hnone) cs
    refine forall_onHead (P := P) (hopen n) (fun cs => ?_) _
    cases readCount f cs with
    | none => exact hnone
    | some p => exact forall_onHead (P := P) (htest n p.1) (fun _ => hnone) p.2
  rw [readCounts_eq] at h
  obtain ⟨⟨⟨l, m⟩, after⟩, hcounts, heq⟩ := Option.map_eq_some_iff.mp h
  cases heq
  obtain ⟨p, -, hp⟩ := Option.bind_eq_some_iff.mp hcounts
  exact hafter p.1 p.2 _ hp

lemma ordered_escapePattern {f : Flags} {e : Escape} {p : Pattern}
    (h : escapePattern? f e = some p) : p.Ordered := by
  unfold escapePattern? at h
  split at h
  · split at h
    · cases h
    · cases h
      trivial
  · cases h
    trivial
  · cases h
    trivial

section Steps

variable {r : Reading} (h : r.Orderly)

include h

lemma keeps_repeatMarked {least : Nat} {most : Option Nat} (hmost : ∀ m, most = some m → least ≤ m)
    (cs : List Char) : Keeps (r.repeatMarked least most cs) := by
  rintro ⟨r', rest⟩ hread
  unfold repeatMarked at hread
  split at hread <;>
  · obtain ⟨r'', hlast, heq⟩ := Option.map_eq_some_iff.mp hread
    cases heq
    exact h.repeatLast hmost hlast

lemma keeps_enterNamed (cs : List Char) : Keeps (r.enterNamed cs) := by
  intro p hread
  obtain ⟨⟨name, rest⟩, -, hnamed⟩ := Option.bind_eq_some_iff.mp hread
  simp only at hnamed
  split at hnamed
  · cases hnamed
  · cases hnamed
    exact ⟨h.enterCapture.branches, h.enterCapture.items, h.enterCapture.groups⟩

lemma keeps_readModal (s : Flags × Bool × List Char) (cs : List Char) :
    Keeps (r.readModal s cs) := by
  intro p hread
  obtain ⟨q, -, hmodal⟩ := Option.bind_eq_some_iff.mp hread
  split at hmodal
  · split at hmodal
    · cases hmodal
    · cases hmodal
      exact h.setModes q.1
  · cases hmodal
    exact h.enter q.1
  · cases hmodal

lemma keeps_readSpecial (cs : List Char) : Keeps (r.readSpecial cs) := by
  have hnone (cs : List Char) : Keeps ((fun _ => none : List Char → _) cs) := keeps_none
  have hname := keeps_enterNamed h
  have hangle := forall_onHead (d := '=') hnone (forall_onHead (d := '!') hnone hname)
  have hpython := forall_onHead (d := '<') hname hnone
  exact forall_onHead hnone (forall_onHead hnone (forall_onHead hangle
    (forall_onHead hpython (keeps_readModal h _)))) cs

lemma keeps_readGroup (cs : List Char) : Keeps (r.readGroup cs) := by
  rw [readGroup_eq]
  exact forall_onHead (keeps_readSpecial h) (fun _ => keeps_some h.enterCapture) _

/-- **A step** keeps what was read in order. -/
lemma keeps_step (c : Char) (cs : List Char) : Keeps (r.step c cs) := by
  unfold step
  split
  · exact keeps_readGroup h cs
  · intro p hp
    obtain ⟨r', hleave, rfl⟩ := Option.map_eq_some_iff.mp hp
    exact h.leave hleave
  · exact keeps_some ⟨allOrdered_cons.mpr ⟨ordered_sequence h.items, h.branches⟩, allOrdered_nil,
      h.groups⟩
  · intro p hp
    obtain ⟨q, -, hq⟩ := Option.bind_eq_some_iff.mp hp
    cases hq
    exact h.add (p := .one q.1.set) trivial q.1.depth
  · exact keeps_repeatMarked h (fun m hm => by cases hm; omega) cs
  · exact keeps_repeatMarked h (fun m hm => by cases hm) cs
  · exact keeps_repeatMarked h (fun m hm => by cases hm) cs
  · intro p hp
    obtain ⟨⟨least, most, rest⟩, hcounts, hmarked⟩ := Option.bind_eq_some_iff.mp hp
    exact keeps_repeatMarked h (readCounts_le hcounts) _ p hmarked
  · intro p hp
    obtain ⟨q, -, hq⟩ := Option.bind_eq_some_iff.mp hp
    obtain ⟨pattern, hpattern, hadd⟩ := Option.bind_eq_some_iff.mp hq
    cases hadd
    exact h.add (ordered_escapePattern hpattern) 0
  · intro p hp
    obtain ⟨s, -, rfl⟩ := Option.map_eq_some_iff.mp hp
    exact h.add (p := .one s) trivial 0
  · exact keeps_some (h.add (p := .look _) trivial 0)
  · exact keeps_some (h.add (p := .look _) trivial 0)
  · exact keeps_some (h.add (p := .one _) trivial 0)

end Steps

/-! ## Runs -/

/-- **A run** keeps what was read in order. -/
theorem orderly_of_run {r r' : Reading} {cs : List Char} (h : r.Orderly)
    (hrun : r.run cs = some r') : r'.Orderly := by
  induction r, cs using run_induction with
  | ended r cs hskip =>
      rw [run_nil hskip, Option.some.injEq] at hrun
      rwa [← hrun]
  | next r cs c rest hskip ih =>
      rw [run_cons hskip] at hrun
      obtain ⟨⟨r₁, after⟩, hstep, hafter⟩ := Option.bind_eq_some_iff.mp hrun
      exact ih r₁ after hstep (keeps_step h c rest _ hstep) hafter

end RadarConform.Pattern.Reading
