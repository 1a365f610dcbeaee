import RadarConform.Json.Reader
import RadarConform.Proofs.Number.Magnitude

/-!
# The range of numbers in a JSON text

An integer of a JSON value has 64 bits and every other number is finite, whatever the text says: a
numeral that leaves the finite range on the way has no value, and then the text has none.

* `Json.InRange` — a value whose numbers are in range.
* `Numeral.inRange_of_value?` — **what a numeral stands for is in range.**
* `Outline.of_ofTokens?` — what holds of the literals of a text and of lists and records of what it
  holds of, holds of the text.
* `inRange_of_parse`, `InRange.merged` — **what a text stands for is in range**, and stays so when
  repeated keys are merged.
-/

namespace RadarConform.Json

/-- A value whose integers have 64 bits and whose other numbers are finite. -/
inductive InRange : Json → Prop
  | null : InRange .null
  | bool (b : Bool) : InRange (.bool b)
  | integer {n : Int} : n.natAbs < 2 ^ 64 → InRange (.integer n)
  | real {x : Number} : x.isFinite = true → InRange (.real x)
  | text (s : String) : InRange (.text s)
  | list {items : List Json} : (∀ v ∈ items, InRange v) → InRange (.list items)
  | record {entries : List (String × Json)} :
      (∀ entry ∈ entries, InRange entry.2) → InRange (.record entries)

lemma atMost_numberOfInt {n : Int} (h : n.natAbs ≤ 2 ^ 64) : (numberOfInt n).AtMost 1085 := by
  have hpower : 2 ^ (53 + 1085) = 2 ^ 64 * Number.unitsOfOne := by
    rw [Number.unitsOfOne_eq (Nat.zero_add 1074), Nat.pow_zero, Nat.one_mul, ← Nat.pow_add]
  refine Number.atMost_ofRatio _ Nat.one_pos ?_
  rw [Int.natAbs_mul, Int.natAbs_natCast, Nat.mul_one, hpower]
  exact Nat.mul_le_mul_right _ h

/-- **An integer of 64 bits is a finite number.** -/
lemma isFinite_numberOfInt {n : Int} (h : n.natAbs < 2 ^ 64) : (numberOfInt n).isFinite = true :=
  (atMost_numberOfInt (Nat.le_of_lt h)).isFinite (by decide)

/-- A number in range is finite. -/
lemma InRange.isFinite {v : Json} (h : v.InRange) {x : Number} (hx : v.number? = some x) :
    x.isFinite = true := by
  cases h with
  | integer hn =>
      rw [← Option.some.inj hx]
      exact isFinite_numberOfInt hn
  | real hfinite =>
      rw [← Option.some.inj hx]
      exact hfinite
  | null | bool | text | list | record => cases hx

/-! ## Numerals -/

namespace Numeral

/-- A power of ten is not less than one. -/
lemma unitsOfOne_le_powerOfTen (e : Nat) : Number.unitsOfOne ≤ (powerOfTen e).units := by
  have hpower : Number.unitsOfOne = 2 ^ (52 + 1022) := by
    rw [Number.unitsOfOne_eq (Nat.zero_add 1074), Nat.pow_zero, Nat.one_mul]
  have hrank : (1022 + 1) * Number.binade ≤ Decimal.rank ⟨1, e⟩ := by
    simp only [Decimal.rank]
    rw [if_neg (by decide)]
    split
    · exact Nat.mul_le_mul_right _ (by decide)
    · rw [if_neg (by omega), if_pos (by omega)]
      refine Number.le_rankOfRatio Nat.one_pos ?_
      rw [← hpower, Nat.mul_one]
      exact Nat.le_mul_of_pos_left _ (Nat.mul_pos Nat.one_pos (Nat.pow_pos (by decide)))
  rw [hpower, powerOfTen, Decimal.toNumber, Number.ofRank, Number.units]
  exact Number.le_unitsOfRank (Nat.le_min.mpr ⟨hrank, Nat.mul_le_mul_right _ (by decide)⟩)

/-- Division by a power of ten makes no number greater. -/
lemma atMost_ratio {k : Nat} {x : Number} (h : x.AtMost k) (e : Nat) :
    (ratio x (powerOfTen e)).AtMost k := by
  have hone := unitsOfOne_le_powerOfTen e
  refine Number.atMost_ofRatio _ (Nat.lt_of_lt_of_le Number.unitsOfOne_pos hone) ?_
  exact Nat.mul_le_mul h.units_le hone

lemma atMost_divideDown {k : Nat} {x : Number} (h : x.AtMost k) (fuel down : Nat) :
    (divideDown fuel x down).AtMost k := by
  induction fuel generalizing x down with
  | zero => exact h
  | succ fuel ih =>
      rw [divideDown]
      split
      · exact atMost_ratio h down
      · split
        · exact h
        · exact ih (atMost_ratio h 308) _

/-- The leading digits fit in 64 bits. -/
lemma leading_le {start : Nat} (h : start ≤ maxWord) (cs : List Char) :
    (leading start cs).1 ≤ maxWord := by
  induction cs generalizing start with
  | nil => exact h
  | cons c cs ih =>
      rw [leading]
      split
      · exact h
      · next hnext => exact ih (Nat.le_of_not_lt hnext)

lemma natAbs_lt_of_le_maxWord {n : Nat} (h : n ≤ maxWord) : (n : Int).natAbs < 2 ^ 64 :=
  Nat.lt_of_le_of_lt h (by decide)

/-- A magnitude times a power of ten is finite, or it has no value. -/
lemma isFinite_of_scaled? {value : Nat} {exponent : Int} {x : Number} (hvalue : value ≤ maxWord)
    (h : scaled? value exponent = some x) : x.isFinite = true := by
  have hword : (numberOfInt value).AtMost 1085 :=
    atMost_numberOfInt (Nat.le_of_lt (natAbs_lt_of_le_maxWord hvalue))
  simp only [scaled?] at h
  split at h
  · cases h
    exact (atMost_divideDown hword _ _).isFinite (by decide)
  · split at h
    · split at h
      · cases h
        exact hword.isFinite (by decide)
      · cases h
    · split at h
      · next hfinite =>
          cases h
          exact hfinite
      · cases h

lemma isFinite_signed (negative : Bool) (x : Number) : (signed negative x).isFinite = x.isFinite := by
  cases negative with
  | true => exact Number.isFinite_neg x
  | false => rfl

lemma inRange_of_real? {negative : Bool} {whole fraction : List Char} {exponent : Int} {v : Json}
    (h : real? negative whole fraction exponent = some v) : v.InRange := by
  obtain ⟨x, hx, rfl⟩ := Option.map_eq_some_iff.mp h
  have hvalue := leading_le (leading_le (Nat.zero_le _) whole) fraction
  exact .real ((isFinite_signed negative x).trans (isFinite_of_scaled? hvalue hx))

lemma inRange_of_integer? {negative : Bool} {whole : List Char} {v : Json}
    (h : integer? negative whole = some v) : v.InRange := by
  simp only [integer?] at h
  split at h
  · exact inRange_of_real? h
  · next hfits =>
      have hword := natAbs_lt_of_le_maxWord (Nat.le_of_not_lt hfits)
      split at h
      · cases h
        exact .integer hword
      · split at h
        · cases h
          exact .real ((Number.isFinite_neg _).trans (isFinite_numberOfInt hword))
        · cases h
          exact .integer (by rwa [Int.natAbs_neg])

/-- **What a numeral stands for is in range.** -/
lemma inRange_of_value? {n : Numeral} {v : Json} (h : n.value? = some v) : v.InRange := by
  rw [value?] at h
  split at h
  · exact inRange_of_integer? h
  · exact inRange_of_real? h

end Numeral

/-! ## Tokens -/

/-- The outline of a token that is a literal. -/
def Token.outline? : Token → Option Outline
  | .atom v => some (.atom v)
  | .string s => some (.atom (s.map .text))
  | _ => none

/-- A word stands for no number. -/
lemma Token.inRange_of_word? {cs : List Char} {v : Json} (h : word? cs = some v) : v.InRange := by
  rw [word?] at h
  split at h <;> cases h
  · exact .null
  · exact .bool true
  · exact .bool false

/-- A literal whose value, if it has one, is in range. -/
def Token.InRange (token : Token) : Prop := ∀ v, token = .atom (some v) → v.InRange

lemma Token.inRange_of_mark? {c : Char} {token : Token} (h : mark? c = some token) :
    token.InRange := by
  rintro v rfl
  simp only [mark?] at h
  split at h <;> cases h

/-- **The literals of a text are in range.** -/
lemma Token.inRange_of_scan {cs : List Char} {tokens : List Token} (h : scan cs = some tokens) :
    ∀ token ∈ tokens, token.InRange := by
  fun_induction scan cs generalizing tokens with
  | case1 =>
      cases h
      exact List.forall_mem_nil _
  | case2 c rest _ ih => exact ih h
  | case3 c rest _ token hmark ih =>
      obtain ⟨later, hlater, rfl⟩ := Option.map_eq_some_iff.mp h
      exact List.forall_mem_cons.mpr ⟨inRange_of_mark? hmark, ih hlater⟩
  | case4 => cases h
  | case5 rest _ _ body after _ ih =>
      simp only [Option.bind_eq_bind, Option.bind_eq_some_iff, Option.pure_def,
        Option.some.injEq] at h
      obtain ⟨parts, -, later, hlater, rfl⟩ := h
      exact List.forall_mem_cons.mpr ⟨nofun, ih hlater⟩
  | case6 c rest _ _ _ _ ih =>
      simp only [Option.bind_eq_bind, Option.bind_eq_some_iff, Option.pure_def,
        Option.some.injEq] at h
      obtain ⟨value, hvalue, later, hlater, rfl⟩ := h
      refine List.forall_mem_cons.mpr ⟨fun v hv => ?_, ih hlater⟩
      cases hv
      exact inRange_of_word? hvalue
  | case7 c rest _ _ _ _ ih =>
      simp only [Option.bind_eq_bind, Option.bind_eq_some_iff, Option.pure_def,
        Option.some.injEq] at h
      obtain ⟨numeral, -, later, hlater, rfl⟩ := h
      refine List.forall_mem_cons.mpr ⟨fun v hv => ?_, ih hlater⟩
      exact Numeral.inRange_of_value? (Token.atom.inj hv)

/-! ## Readings -/

/-- The outlines that an open list or record holds. -/
@[grind] def Open.outlines : Open → List Outline
  | .list items => items
  | .record entries _ => entries.map (·.2)

/-- The outlines that are read and not yet in what is open. -/
@[grind] def Expecting.outlines : Expecting → List Outline
  | .value _ => []
  | .key _ entries | .colon entries _ => entries.map (·.2)
  | .next o => [o]

namespace Reading

/-- The outlines that a reading holds. -/
@[grind] def outlines (r : Reading) : List Outline :=
  r.expecting.outlines ++ r.stack.flatMap Open.outlines

/-- What one more token adds to a reading: nothing, a literal, or a list or record of what is
there. -/
inductive Adds (r : Reading) (token : Token) : List Outline → Prop
  | nothing : Adds r token []
  | literal {o : Outline} : token.outline? = some o → Adds r token [o]
  | list {items : List Outline} : items ⊆ r.outlines → Adds r token [.list items]
  | record {entries : List (Option String × Outline)} :
      entries.map (·.2) ⊆ r.outlines → Adds r token [.record entries]

/-- **One token.**  A reading holds what it held before and what the token adds. -/
lemma adds_of_step {r r' : Reading} {token : Token} (h : r.step token = some r') :
    ∃ added, r.Adds token added ∧ r'.outlines ⊆ added ++ r.outlines := by
  obtain ⟨stack, expecting⟩ := r
  simp only [step] at h
  split at h
  · cases h
    exact ⟨_, .literal rfl, by grind⟩
  · cases h
    exact ⟨_, .literal rfl, by grind⟩
  · cases h
    exact ⟨_, .nothing, by grind⟩
  · cases h
    exact ⟨_, .nothing, by grind⟩
  · split at h
    · next items rest =>
        cases h
        exact ⟨[.list items.reverse], .list (by grind), by grind [close]⟩
    · cases h
  · cases h
    exact ⟨_, .nothing, by grind⟩
  · next entries =>
      split at h
      · cases h
        exact ⟨[.record entries.reverse], .record (by grind), by grind [close]⟩
      · cases h
  · split at h
    · cases h
      exact ⟨_, .nothing, by grind⟩
    · cases h
  · split at h
    · cases h
      exact ⟨_, .nothing, by grind⟩
    · cases h
      exact ⟨_, .nothing, by grind⟩
    · cases h
  · next o =>
      split at h
      · next items rest =>
          cases h
          exact ⟨[.list (o :: items).reverse], .list (by grind),
            by grind [close]⟩
      · cases h
  · next o =>
      split at h
      · next entries key rest =>
          cases h
          exact ⟨[.record ((key, o) :: entries).reverse], .record (by grind),
            by grind [close]⟩
      · cases h
  · cases h

section Invariant

variable {P : Outline → Prop} (hlist : ∀ items : List Outline, (∀ o ∈ items, P o) → P (.list items))
  (hrecord : ∀ entries : List (Option String × Outline), (∀ o ∈ entries.map (·.2), P o) →
    P (.record entries))

include hlist hrecord

/-- What holds of literals and is kept by lists and records is kept by every step. -/
lemma holds_step {r r' : Reading} {token : Token} (h : r.step token = some r')
    (htoken : ∀ o, token.outline? = some o → P o) (hr : ∀ o ∈ r.outlines, P o) :
    ∀ o ∈ r'.outlines, P o := by
  obtain ⟨added, hadds, hsubset⟩ := adds_of_step h
  have hadded : ∀ o ∈ added, P o := by
    cases hadds with
    | nothing => exact List.forall_mem_nil _
    | literal ho => exact List.forall_mem_singleton.mpr (htoken _ ho)
    | list hitems => exact List.forall_mem_singleton.mpr (hlist _ fun o ho => hr o (hitems ho))
    | record hentries =>
        exact List.forall_mem_singleton.mpr (hrecord _ fun o ho => hr o (hentries ho))
  intro o ho
  exact (List.mem_append.mp (hsubset ho)).elim (hadded o) (hr o)

/-- **A run.**  The induction is on the tokens that are left. -/
lemma holds_run {tokens : List Token} {r r' : Reading} (h : tokens.foldlM step r = some r')
    (htokens : ∀ token ∈ tokens, ∀ o, token.outline? = some o → P o)
    (hr : ∀ o ∈ r.outlines, P o) : ∀ o ∈ r'.outlines, P o := by
  induction tokens generalizing r with
  | nil =>
      cases h
      exact hr
  | cons token rest ih =>
      rw [List.foldlM_cons] at h
      obtain ⟨next, hnext, hrest⟩ := Option.bind_eq_some_iff.mp h
      rw [List.forall_mem_cons] at htokens
      exact ih hrest htokens.2 (holds_step hlist hrecord hnext htokens.1 hr)

end Invariant

end Reading

/-! ## Values -/

namespace Outline

/-- A structure whose value, if it has one, is in range. -/
def InRange (o : Outline) : Prop := ∀ v, o.value? = some v → v.InRange

lemma inRange_list {items : List Outline} (h : ∀ o ∈ items, o.InRange) :
    (list items).InRange := by
  have hitems : ∀ vs, itemValues? items = some vs → ∀ v ∈ vs, v.InRange := by
    induction items with
    | nil =>
        intro vs hvs
        cases hvs
        exact List.forall_mem_nil _
    | cons o rest ih =>
        rw [List.forall_mem_cons] at h
        intro vs hvs
        simp only [itemValues?, Option.bind_eq_bind, Option.bind_eq_some_iff, Option.pure_def,
          Option.some.injEq] at hvs
        obtain ⟨v, hv, later, hlater, rfl⟩ := hvs
        exact List.forall_mem_cons.mpr ⟨h.1 v hv, ih h.2 later hlater⟩
  intro v hv
  obtain ⟨vs, hvs, rfl⟩ := Option.map_eq_some_iff.mp hv
  exact .list (hitems vs hvs)

lemma inRange_record {entries : List (Option String × Outline)}
    (h : ∀ o ∈ entries.map (·.2), o.InRange) : (record entries).InRange := by
  have hentries : ∀ es, entryValues? entries = some es → ∀ e ∈ es, e.2.InRange := by
    induction entries with
    | nil =>
        intro es hes
        cases hes
        exact List.forall_mem_nil _
    | cons entry rest ih =>
        obtain ⟨key, o⟩ := entry
        rw [List.map_cons, List.forall_mem_cons] at h
        intro es hes
        simp only [entryValues?, Option.bind_eq_bind, Option.bind_eq_some_iff, Option.pure_def,
          Option.some.injEq] at hes
        obtain ⟨k, -, v, hv, later, hlater, rfl⟩ := hes
        exact List.forall_mem_cons.mpr ⟨h.1 v hv, ih h.2 later hlater⟩
  intro v hv
  obtain ⟨es, hes, rfl⟩ := Option.map_eq_some_iff.mp hv
  exact .record (hentries es hes)

lemma inRange_of_ofTokens? {tokens : List Token} {o : Outline} (h : ofTokens? tokens = some o)
    (htokens : ∀ token ∈ tokens, token.InRange) : o.InRange := by
  simp only [ofTokens?, Option.bind_eq_bind, Option.bind_eq_some_iff] at h
  obtain ⟨r, hr, ho⟩ := h
  have hliterals : ∀ token ∈ tokens, ∀ o, token.outline? = some o → o.InRange := by
    rintro token htoken o ho v hv
    cases token with
    | atom value =>
        cases ho
        exact htokens _ htoken v (congrArg Token.atom hv)
    | string s =>
        cases ho
        obtain ⟨text, -, rfl⟩ := Option.map_eq_some_iff.mp hv
        exact .text text
    | openList | closeList | openRecord | closeRecord | comma | colon => cases ho
  have hall := Reading.holds_run (fun _ => inRange_list) (fun _ => inRange_record) hr hliterals
    (List.forall_mem_nil _)
  obtain ⟨stack, expecting⟩ := r
  simp only [Reading.outline?] at ho
  split at ho
  · next hstack hexpecting =>
      cases ho
      exact hall o (by simp_all [Reading.outlines, Expecting.outlines])
  · cases ho

end Outline

/-- **What a text stands for is in range.** -/
lemma inRange_of_parse {text : String} {v : Json} (h : parse text = some v) : v.InRange := by
  simp only [parse, Option.bind_eq_bind, Option.bind_eq_some_iff] at h
  obtain ⟨tokens, htokens, h⟩ := h
  split at h
  · obtain ⟨o, ho, hv⟩ := Option.bind_eq_some_iff.mp h
    exact Outline.inRange_of_ofTokens? ho (Token.inRange_of_scan htokens) v hv
  · cases h

/-! ## Merging -/

lemma mem_insert {entries : List (String × Json)} {key : String} {value : Json}
    {entry : String × Json} (h : entry ∈ insert entries key value) :
    entry ∈ entries ∨ entry = (key, value) := by
  induction entries with
  | nil => exact .inr (List.mem_singleton.mp h)
  | cons first rest ih =>
      obtain ⟨k, v⟩ := first
      rw [insert] at h
      split at h
      · next hk =>
          rcases List.mem_cons.mp h with rfl | h
          · exact .inr (by rw [hk])
          · exact .inl (List.mem_cons_of_mem _ h)
      · rcases List.mem_cons.mp h with rfl | h
        · exact .inl List.mem_cons_self
        · exact (ih h).imp_left (List.mem_cons_of_mem _)

lemma mergedItems_eq (items : List Json) : mergedItems items = items.map Json.merged := by
  induction items with
  | nil => rfl
  | cons v rest ih => rw [mergedItems, ih, List.map_cons]

lemma forall_mem_mergedEntries {P : Json → Prop} {before entries : List (String × Json)}
    (hbefore : ∀ entry ∈ before, P entry.2) (hentries : ∀ entry ∈ entries, P entry.2.merged) :
    ∀ entry ∈ mergedEntries before entries, P entry.2 := by
  induction entries generalizing before with
  | nil => exact hbefore
  | cons first rest ih =>
      obtain ⟨k, v⟩ := first
      rw [List.forall_mem_cons] at hentries
      refine ih (fun entry hentry => ?_) hentries.2
      rcases mem_insert hentry with hentry | rfl
      · exact hbefore entry hentry
      · exact hentries.1

/-- Merging repeated keys leaves the numbers in range. -/
lemma InRange.merged {v : Json} (h : v.InRange) : v.merged.InRange := by
  induction h with
  | null => exact .null
  | bool b => exact .bool b
  | integer hn => exact .integer hn
  | real hx => exact .real hx
  | text s => exact .text s
  | list _ ih =>
      rw [Json.merged, mergedItems_eq]
      exact .list (List.forall_mem_map.mpr ih)
  | record _ ih => exact .record (forall_mem_mergedEntries (List.forall_mem_nil _) ih)

end RadarConform.Json
