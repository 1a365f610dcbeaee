import Mathlib.Tactic.Lemma
import RadarConform.Pattern.Search

/-!
# The search finds what the meaning says

A set of positions is a number, and a step of the search maps such sets to such sets.  A step
*follows* a relation between positions when it leads from a set to everything the relation leads to
from there; the prepared form of a pattern follows the pattern's meaning.

* `Chain` — a relation applied a number of times, and `spans_times_iff`, which reads a repetition
  as a chain of a length between the bounds.
* `testBit_iterate`, `testBit_spread` — the two loops of a repetition.  The second stops following a
  position once it was seen, and loses nothing by it.
* `Chain.shorten` — **positions never go back**, so a chain need not be longer than the text; that
  is why a repetition without bound ends.
* `found_iff` — a pattern is found in a text exactly when it spans some part of the text.

A repetition whose greatest number is below its least spans nothing, but the search would give the
positions after the least number.  `Ordered` leaves such patterns out; none is ever read.
-/

namespace RadarConform.Pattern

/-! ## Chains -/

section Chains

variable {R : Nat → Nat → Prop}

/-- A relation between positions applied a number of times. -/
inductive Chain (R : Nat → Nat → Prop) : Nat → Nat → Nat → Prop
  | stop {i : Nat} : Chain R 0 i i
  | more {n i j k : Nat} : R i j → Chain R n j k → Chain R (n + 1) i k

lemma Chain.append {m n i j k : Nat} (h : Chain R m i j) (h' : Chain R n j k) :
    Chain R (m + n) i k := by
  induction h with
  | stop => rwa [Nat.zero_add]
  | @more m _ _ _ hstep _ ih =>
      rw [Nat.add_right_comm]
      exact .more hstep (ih h')

lemma Chain.split {m n i k : Nat} (h : Chain R (m + n) i k) :
    ∃ j, Chain R m i j ∧ Chain R n j k := by
  induction m generalizing i with
  | zero => exact ⟨i, .stop, by rwa [Nat.zero_add] at h⟩
  | succ m ih =>
      rw [Nat.add_right_comm] at h
      cases h with
      | more hstep h =>
          obtain ⟨j, hm, hn⟩ := ih h
          exact ⟨j, .more hstep hm, hn⟩

/-- **Short chains.**  Where positions never go back, steps that stay in place can be left out, and
what remains is no longer than the way. -/
lemma Chain.shorten (hforward : ∀ i j, R i j → i ≤ j) {n i k : Nat} (h : Chain R n i k) :
    i ≤ k ∧ ∃ m, m ≤ n ∧ m ≤ k - i ∧ Chain R m i k := by
  induction h with
  | stop => exact ⟨Nat.le_refl _, 0, Nat.le_refl _, Nat.zero_le _, .stop⟩
  | @more n i j k hstep h ih =>
      obtain ⟨hjk, m, hmn, hmk, hchain⟩ := ih
      have hij := hforward i j hstep
      refine ⟨Nat.le_trans hij hjk, ?_⟩
      by_cases heq : i = j
      · subst heq
        exact ⟨m, by omega, hmk, hchain⟩
      · exact ⟨m + 1, by omega, by omega, .more hstep hchain⟩

/-- A chain that starts in a set which the relation does not leave ends in it. -/
lemma Chain.closed {P : Nat → Prop} (hclosed : ∀ i j, P i → R i j → P j) {n i k : Nat}
    (h : Chain R n i k) (hi : P i) : P k := by
  induction h with
  | stop => exact hi
  | more hstep _ ih => exact ih (hclosed _ _ hi hstep)

end Chains

/-! ## Spans -/

section Spans

variable {w : List Char} {p q : Pattern}

/-- A pattern leads forward, inside the text. -/
lemma Spans.bounds {i j : Nat} (h : Spans w p i j) : i ≤ j ∧ j ≤ w.length := by
  induction h with
  | empty hi => exact ⟨Nat.le_refl _, hi⟩
  | one hc _ => exact ⟨Nat.le_succ _, (List.getElem?_eq_some_iff.mp hc).1⟩
  | look hi _ => exact ⟨Nat.le_refl _, hi⟩
  | seq _ _ ihp ihq => exact ⟨Nat.le_trans ihp.1 ihq.1, ihq.2⟩
  | altLeft _ ih => exact ih
  | altRight _ ih => exact ih
  | timesDone hi => exact ⟨Nat.le_refl _, hi⟩
  | timesMore _ _ _ ihp ihq => exact ⟨Nat.le_trans ihp.1 ihq.1, ihq.2⟩
  | group _ ih => exact ih

lemma spans_empty_iff {i j : Nat} : Spans w .empty i j ↔ i = j ∧ i ≤ w.length := by
  constructor
  · intro h
    cases h with
    | empty hi => exact ⟨rfl, hi⟩
  · rintro ⟨rfl, hi⟩
    exact .empty hi

lemma spans_one_iff {s : CharSet} {i j : Nat} :
    Spans w (.one s) i j ↔ (∃ c, w[i]? = some c ∧ s.contains c = true) ∧ j = i + 1 := by
  constructor
  · intro h
    cases h with
    | one hc hs => exact ⟨⟨_, hc, hs⟩, rfl⟩
  · rintro ⟨⟨c, hc, hs⟩, rfl⟩
    exact .one hc hs

lemma spans_look_iff {l : Look} {i j : Nat} :
    Spans w (.look l) i j ↔
      i = j ∧ i ≤ w.length ∧ l.allows (before w i) (after w i) = true := by
  constructor
  · intro h
    cases h with
    | look hi hl => exact ⟨rfl, hi, hl⟩
  · rintro ⟨rfl, hi, hl⟩
    exact .look hi hl

lemma spans_seq_iff {i k : Nat} :
    Spans w (.seq p q) i k ↔ ∃ j, Spans w p i j ∧ Spans w q j k := by
  constructor
  · intro h
    cases h with
    | seq hp hq => exact ⟨_, hp, hq⟩
  · rintro ⟨j, hp, hq⟩
    exact .seq hp hq

lemma spans_alt_iff {i j : Nat} :
    Spans w (.alt p q) i j ↔ Spans w p i j ∨ Spans w q i j := by
  constructor
  · intro h
    cases h with
    | altLeft hp => exact .inl hp
    | altRight hq => exact .inr hq
  · rintro (hp | hq)
    · exact .altLeft hp
    · exact .altRight hq

lemma spans_group_iff {number : Option Nat} {i j : Nat} :
    Spans w (.group number p) i j ↔ Spans w p i j := by
  constructor
  · intro h
    cases h with
    | group hp => exact hp
  · exact .group

lemma chain_of_spans {r : Pattern} {i k : Nat} (h : Spans w r i k) :
    ∀ {least most greedy}, r = .times p least most greedy →
      i ≤ w.length ∧ ∃ n, least ≤ n ∧ (∀ m, most = some m → n ≤ m) ∧ Chain (Spans w p) n i k := by
  induction h with
  | timesDone hi =>
      rintro least most greedy ⟨⟩
      exact ⟨hi, 0, Nat.le_refl _, fun _ _ => Nat.zero_le _, .stop⟩
  | timesMore hmost hp hrest _ ih =>
      rintro least most greedy ⟨⟩
      obtain ⟨-, n, hleast, hbound, hchain⟩ := ih rfl
      have hp' := hp.bounds
      refine ⟨Nat.le_trans hp'.1 hp'.2, n + 1, by omega, ?_, .more hp hchain⟩
      rintro m rfl
      have hpos : m ≠ 0 := fun h => hmost (by rw [h])
      have := hbound (m - 1) rfl
      omega
  | _ =>
      rintro least most greedy ⟨⟩

lemma spans_of_chain {n i k : Nat} (h : Chain (Spans w p) n i k) (hi : i ≤ w.length) :
    ∀ {least most greedy}, least ≤ n → (∀ m, most = some m → n ≤ m) →
      Spans w (.times p least most greedy) i k := by
  induction h with
  | stop =>
      intro least most greedy hleast _
      obtain rfl : least = 0 := by omega
      exact .timesDone hi
  | more hp _ ih =>
      intro least most greedy hleast hbound
      have hmost : most ≠ some 0 := fun h => by
        have := hbound 0 h
        omega
      refine .timesMore hmost hp (ih hp.bounds.2 (by omega) ?_)
      intro m hm
      obtain ⟨m', hm', rfl⟩ := Option.map_eq_some_iff.mp hm
      have := hbound m' hm'
      omega

/-- **A repetition** is a chain of a length between the bounds. -/
lemma spans_times_iff {least : Nat} {most : Option Nat} {greedy : Bool} {i k : Nat} :
    Spans w (.times p least most greedy) i k ↔
      i ≤ w.length ∧ ∃ n, least ≤ n ∧ (∀ m, most = some m → n ≤ m) ∧ Chain (Spans w p) n i k := by
  constructor
  · intro h
    exact chain_of_spans h rfl
  · rintro ⟨hi, n, hleast, hbound, hchain⟩
    exact spans_of_chain hchain hi hleast hbound

end Spans

/-! ## Sets of positions -/

/-- A set of positions of a text with `n` characters. -/
def Within (n s : Nat) : Prop := ∀ i, s.testBit i = true → i ≤ n

/-- A step on sets of positions leads to what a relation leads to. -/
def Follows (n : Nat) (R : Nat → Nat → Prop) (step : Nat → Nat) : Prop :=
  ∀ s, Within n s → ∀ j, (step s).testBit j = true ↔ ∃ i, s.testBit i = true ∧ R i j

lemma testBit_positionsWhere (test : Nat → Bool) (n i : Nat) :
    (positionsWhere test n).testBit i = (decide (i < n) && test i) := by
  induction n with
  | zero => simp [positionsWhere]
  | succ n ih =>
      have hbit : (1 <<< n).testBit i = decide (i = n) := by
        rw [Nat.one_shiftLeft, Nat.testBit_two_pow]
        simp only [eq_comm]
      simp only [positionsWhere]
      split
      · next hn =>
          rw [Nat.testBit_or, ih, hbit]
          by_cases heq : i = n
          · subst heq
            simp [hn]
          · simp [heq, show i < n + 1 ↔ i < n by omega]
      · next hn =>
          rw [ih]
          by_cases heq : i = n
          · subst heq
            simp [hn]
          · simp [show i < n + 1 ↔ i < n by omega]

section Loops

variable {n : Nat} {R : Nat → Nat → Prop} {step : Nat → Nat}

lemma Follows.within (h : Follows n R step) (hR : ∀ i j, R i j → j ≤ n) {s : Nat}
    (hs : Within n s) : Within n (step s) := by
  intro j hj
  obtain ⟨i, -, hij⟩ := (h s hs j).mp hj
  exact hR i j hij

lemma iterate_fixed {s : Nat} (h : step s = s) (count : Nat) : iterate step count s = s := by
  cases count with
  | zero => rfl
  | succ count => simp [iterate, h]

lemma iterate_succ (step : Nat → Nat) (count s : Nat) :
    iterate step (count + 1) s = iterate step count (step s) := by
  simp only [iterate]
  split
  · next h => rw [h, iterate_fixed h]
  · rfl

/-- A step repeated a fixed number of times follows chains of that length. -/
lemma testBit_iterate (h : Follows n R step) (hR : ∀ i j, R i j → j ≤ n) (count : Nat) :
    Follows n (Chain R count) (iterate step count) := by
  induction count with
  | zero =>
      intro s _ j
      constructor
      · intro hj
        exact ⟨j, hj, .stop⟩
      · rintro ⟨i, hi, ⟨⟩⟩
        exact hi
  | succ count ih =>
      intro s hs j
      rw [iterate_succ, ih _ (h.within hR hs)]
      constructor
      · rintro ⟨i, hi, hchain⟩
        obtain ⟨a, ha, hai⟩ := (h s hs i).mp hi
        exact ⟨a, ha, .more hai hchain⟩
      · rintro ⟨a, ha, hchain⟩
        cases hchain with
        | @more _ _ i _ hai hchain => exact ⟨i, (h s hs i).mpr ⟨a, ha, hai⟩, hchain⟩

lemma testBit_new (next seen i : Nat) :
    (next ^^^ (next &&& seen)).testBit i = (next.testBit i && !seen.testBit i) := by
  rw [Nat.testBit_xor, Nat.testBit_and]
  cases next.testBit i <;> cases seen.testBit i <;> rfl

/-- **Spreading.**  The invariant is that every position that was seen and is not fresh has been
followed: what it leads to was seen, too. -/
lemma testBit_spread (h : Follows n R step) (hR : ∀ i j, R i j → j ≤ n) (count : Nat) :
    ∀ {fresh seen : Nat}, Within n seen → (∀ i, fresh.testBit i = true → seen.testBit i = true) →
      (∀ i j, seen.testBit i = true → fresh.testBit i = false → R i j → seen.testBit j = true) →
      ∀ k, (spread step count fresh seen).testBit k = true ↔
        ∃ m, m ≤ count ∧ ∃ i, seen.testBit i = true ∧ Chain R m i k := by
  induction count with
  | zero =>
      intro fresh seen _ _ _ k
      constructor
      · intro hk
        exact ⟨0, Nat.le_refl _, k, hk, .stop⟩
      · rintro ⟨m, hm, i, hi, hchain⟩
        obtain rfl : m = 0 := by omega
        cases hchain
        exact hi
  | succ count ih =>
      intro fresh seen hseen hfresh hfollowed k
      have hnext := h fresh fun i hi => hseen i (hfresh i hi)
      have hnew := testBit_new (step fresh) seen
      -- one step from what was seen stays in it or is new
      have hstep : ∀ i j, seen.testBit i = true → R i j →
          seen.testBit j = true ∨ (step fresh ^^^ (step fresh &&& seen)).testBit j = true := by
        intro i j hi hij
        cases hf : fresh.testBit i with
        | false => exact .inl (hfollowed i j hi hf hij)
        | true =>
            have hj := (hnext j).mpr ⟨i, hf, hij⟩
            cases hs : seen.testBit j with
            | true => exact .inl rfl
            | false => exact .inr (by rw [hnew, hj, hs]; rfl)
      simp only [spread]
      split
      · next hzero =>
          have hclosed : ∀ i j, seen.testBit i = true → R i j → seen.testBit j = true := by
            intro i j hi hij
            rcases hstep i j hi hij with hj | hj
            · exact hj
            · rw [hzero, Nat.zero_testBit] at hj
              cases hj
          constructor
          · intro hk
            exact ⟨0, Nat.zero_le _, k, hk, .stop⟩
          · rintro ⟨m, -, i, hi, hchain⟩
            exact hchain.closed hclosed hi
      · rw [ih]
        · constructor
          · rintro ⟨m, hm, i, hi, hchain⟩
            rw [Nat.testBit_or, Bool.or_eq_true] at hi
            rcases hi with hi | hi
            · exact ⟨m, by omega, i, hi, hchain⟩
            · rw [hnew, Bool.and_eq_true] at hi
              obtain ⟨a, ha, hai⟩ := (hnext i).mp hi.1
              exact ⟨m + 1, by omega, a, hfresh a ha, .more hai hchain⟩
          · rintro ⟨m, hm, i, hi, hchain⟩
            cases hchain with
            | stop => exact ⟨0, Nat.zero_le _, k, by rw [Nat.testBit_or, hi]; rfl, .stop⟩
            | @more m _ j _ hij hchain =>
                refine ⟨m, by omega, j, ?_, hchain⟩
                rw [Nat.testBit_or, Bool.or_eq_true]
                exact hstep i j hi hij
        · intro i hi
          rw [Nat.testBit_or, Bool.or_eq_true] at hi
          rcases hi with hi | hi
          · exact hseen i hi
          · rw [hnew, Bool.and_eq_true] at hi
            obtain ⟨a, -, hai⟩ := (hnext i).mp hi.1
            exact hR a i hai
        · intro i hi
          rw [Nat.testBit_or, hi, Bool.or_true]
        · intro i j hi hf hij
          rw [Nat.testBit_or, hf, Bool.or_false] at hi
          rw [Nat.testBit_or, Bool.or_eq_true]
          exact hstep i j hi hij

end Loops

/-! ## Patterns -/

/-- In every repetition the least number is at most the greatest. -/
def Ordered : Pattern → Prop
  | .seq p q => p.Ordered ∧ q.Ordered
  | .alt p q => p.Ordered ∧ q.Ordered
  | .times p least most _ => p.Ordered ∧ ∀ m, most = some m → least ≤ m
  | .group _ p => p.Ordered
  | _ => True

section Reach

variable {w : List Char}

lemma startsIn_iff {s : CharSet} {i : Nat} :
    startsIn w.toArray s i = true ↔ ∃ c, w[i]? = some c ∧ s.contains c = true := by
  simp only [startsIn, List.getElem?_toArray]
  cases w[i]? with
  | none => simp
  | some c => simp

lemma allowsAt_eq (l : Look) (i : Nat) :
    allowsAt w.toArray l i = l.allows (before w i) (after w i) := by
  simp [allowsAt, before, after]

lemma follows_stay : Follows w.length (Spans w .empty) (Steps.reach w.length .stay) := by
  intro s hs j
  simp only [Steps.reach, spans_empty_iff]
  constructor
  · intro hj
    exact ⟨j, hj, rfl, hs j hj⟩
  · rintro ⟨i, hi, rfl, -⟩
    exact hi

lemma follows_stayAt (l : Look) :
    Follows w.length (Spans w (.look l))
      (Steps.reach w.length (.stayAt (positionsWhere (allowsAt w.toArray l) (w.length + 1)))) := by
  intro s _ j
  simp only [Steps.reach, Nat.testBit_and, Bool.and_eq_true, testBit_positionsWhere,
    decide_eq_true_eq, allowsAt_eq, spans_look_iff, Nat.lt_succ_iff]
  constructor
  · rintro ⟨hj, hbound, hl⟩
    exact ⟨j, hj, rfl, hbound, hl⟩
  · rintro ⟨i, hi, rfl, hbound, hl⟩
    exact ⟨hi, hbound, hl⟩

lemma follows_advance (cs : CharSet) :
    Follows w.length (Spans w (.one cs))
      (Steps.reach w.length (.advance (positionsWhere (startsIn w.toArray cs) w.length))) := by
  intro s _ j
  simp only [Steps.reach, Nat.testBit_shiftLeft, Nat.testBit_and, Bool.and_eq_true,
    testBit_positionsWhere, decide_eq_true_eq, startsIn_iff, spans_one_iff]
  constructor
  · rintro ⟨hj, hs, hbound, hc⟩
    exact ⟨j - 1, hs, hc, by omega⟩
  · rintro ⟨i, hi, ⟨c, hc, hcs⟩, rfl⟩
    exact ⟨by omega, hi, (List.getElem?_eq_some_iff.mp hc).1, c, hc, hcs⟩

lemma chain_bound {p : Pattern} {n i k : Nat} (h : Chain (Spans w p) n i k)
    (hi : i ≤ w.length) : k ≤ w.length :=
  h.closed (fun _ _ _ hij => hij.bounds.2) hi

/-- How many steps a repetition takes beyond its least number: as many as its greatest number
leaves, but never more than there are positions. -/
def budget (w : List Char) (least : Nat) : Option Nat → Nat
  | none => w.length + 1
  | some m => min (m - least) (w.length + 1)

/-- A repetition leads through its least number of steps and from there through as many as its
budget allows. -/
lemma follows_times {p : Pattern} {step : Nat → Nat} {least : Nat} {most : Option Nat}
    {greedy : Bool} (hordered : ∀ m, most = some m → least ≤ m)
    (h : Follows w.length (Spans w p) step) :
    Follows w.length (Spans w (.times p least most greedy)) fun s =>
      spread step (budget w least most) (iterate step least s) (iterate step least s) := by
  have hR : ∀ i j, Spans w p i j → j ≤ w.length := fun _ _ h => h.bounds.2
  intro s hs k
  have hiterate := testBit_iterate h hR least s hs
  have hstart : Within w.length (iterate step least s) := by
    intro j hj
    obtain ⟨i, hi, hchain⟩ := (hiterate j).mp hj
    exact chain_bound hchain (hs i hi)
  rw [testBit_spread h hR (budget w least most) hstart (fun _ hi => hi)
    fun i _ hseen hfresh => by simp [hseen] at hfresh]
  constructor
  · rintro ⟨m, hm, i, hi, hchain⟩
    obtain ⟨a, ha, hleast⟩ := (hiterate i).mp hi
    refine ⟨a, ha, spans_times_iff.mpr ⟨hs a ha, least + m, Nat.le_add_right .., ?_,
      hleast.append hchain⟩⟩
    rintro b rfl
    have hle := hordered b rfl
    simp only [budget] at hm
    omega
  · rintro ⟨a, ha, hspans⟩
    obtain ⟨ha', n, hn, hbound, hchain⟩ := spans_times_iff.mp hspans
    obtain ⟨m, rfl⟩ := Nat.exists_eq_add_of_le hn
    obtain ⟨i, hleast, hrest⟩ := hchain.split
    have hi := chain_bound hleast ha'
    have hk := chain_bound hrest hi
    obtain ⟨-, m', hm', hshort, hrest⟩ := hrest.shorten fun _ _ h => h.bounds.1
    refine ⟨m', ?_, i, (hiterate i).mpr ⟨a, ha, hleast⟩, hrest⟩
    cases most with
    | none =>
        simp only [budget]
        omega
    | some b =>
        have := hbound b rfl
        simp only [budget]
        omega

/-- **The prepared form of a pattern follows its meaning.** -/
lemma follows_prepared {p : Pattern} (h : p.Ordered) :
    Follows w.length (Spans w p) ((prepared w.toArray p).reach w.length) := by
  induction p with
  | empty => exact follows_stay
  | one s => exact follows_advance s
  | look l => exact follows_stayAt l
  | seq p q ihp ihq =>
      intro s hs j
      have hp := ihp h.1
      have hq := ihq h.2 _ (hp.within (fun _ _ h => h.bounds.2) hs) j
      simp only [prepared, Steps.reach, spans_seq_iff, hq, hp s hs]
      constructor
      · rintro ⟨i, ⟨a, ha, hai⟩, hij⟩
        exact ⟨a, ha, i, hai, hij⟩
      · rintro ⟨a, ha, i, hai, hij⟩
        exact ⟨i, ⟨a, ha, hai⟩, hij⟩
  | alt p q ihp ihq =>
      intro s hs j
      simp only [prepared, Steps.reach, spans_alt_iff, Nat.testBit_or, Bool.or_eq_true,
        ihp h.1 s hs, ihq h.2 s hs]
      constructor
      · rintro (⟨i, hi, hij⟩ | ⟨i, hi, hij⟩)
        · exact ⟨i, hi, .inl hij⟩
        · exact ⟨i, hi, .inr hij⟩
      · rintro ⟨i, hi, hij | hij⟩
        · exact .inl ⟨i, hi, hij⟩
        · exact .inr ⟨i, hi, hij⟩
  | times p least most greedy ih =>
      intro s hs j
      rw [← follows_times h.2 (ih h.1) s hs j]
      cases most with
      | none => rfl
      | some m => rfl
  | group number p ih =>
      intro s hs j
      simp only [prepared, spans_group_iff]
      exact ih h s hs j

end Reach

/-- **A pattern is found exactly where it spans something.** -/
theorem found_iff {p : Pattern} (h : p.Ordered) (w : List Char) :
    p.found w = true ↔ p.FoundIn w := by
  have hall : ∀ i, (allPositions w.length).testBit i = decide (i < w.length + 1) := fun i => by
    rw [allPositions, Nat.pow_eq, Nat.testBit_two_pow_sub_one]
  have hwithin : Within w.length (allPositions w.length) := fun i hi => by
    rw [hall, decide_eq_true_eq] at hi
    omega
  have hreach := follows_prepared h _ hwithin
  simp only [found, List.size_toArray, bne_iff_ne, FoundIn]
  constructor
  · intro hne
    obtain ⟨j, hj⟩ := Nat.exists_testBit_of_ne_zero hne
    obtain ⟨i, -, hij⟩ := (hreach j).mp hj
    exact ⟨i, j, hij⟩
  · rintro ⟨i, j, hij⟩ hzero
    have hbounds := hij.bounds
    have hj := (hreach j).mpr ⟨i, by rw [hall, decide_eq_true_eq]; omega, hij⟩
    rw [hzero, Nat.zero_testBit] at hj
    cases hj

end RadarConform.Pattern
