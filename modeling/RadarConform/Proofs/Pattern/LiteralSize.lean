import RadarConform.Proofs.Pattern.Literal

/-!
# The size of texts between anchors

The automata of a pattern are metered state by state.  A text without marks between the anchors
needs a plain state for every byte and a few around them, so whether it is small enough to be used
depends on the number of its bytes only.

* `shape_between_literal` — the simplified form: the bytes of the text in one run between the
  anchors.
* `Metered.Adds` — a part that adds a number of plain states, or exceeds the limit.
* `compilable_between_literal_iff` — **a text without marks is small enough** up to `literalLimit`
  bytes.
* `compiled?_markless_iff` — what is made of it then.
-/

namespace RadarConform.Pattern

/-! ## The simplified form -/

/-- The bytes of some characters. -/
def bytesOf (cs : List Char) : List UInt8 := cs.flatMap String.utf8EncodeChar

lemma ofSet_single (c : Char) : Shape.ofSet (.single c) = .literal (String.utf8EncodeChar c) := by
  simp [Shape.ofSet, CharSet.single, CharSet.range]

lemma elements_literal (cs : List Char) (later : List Shape) :
    elements (literal cs) later = cs.map (.literal <| String.utf8EncodeChar ·) ++ later := by
  induction cs with
  | nil => rw [literal, elements]; rfl
  | cons c cs ih =>
      cases cs with
      | nil => rw [literal, elements, ofSet_single]; rfl
      | cons d cs => rw [literal, elements, elements, ih, ofSet_single]; rfl

/-- A run of bytes; nothing for no byte. -/
def runOf (bytes : List UInt8) : List Shape := if bytes = [] then [] else [.literal bytes]

lemma joinRuns_literals (cs : List Char) (run : List UInt8) :
    Shape.joinRuns run (cs.map (.literal <| String.utf8EncodeChar ·))
      = runOf (run.reverse ++ bytesOf cs) := by
  induction cs generalizing run with
  | nil => simp [Shape.joinRuns, runOf, bytesOf]
  | cons c cs ih => simp [Shape.joinRuns, ih, bytesOf]

lemma seqParts_shape_literal (cs : List Char) :
    (literal cs).shape.seqParts = runOf (bytesOf cs) := by
  have hparts : (cs.map (.literal <| String.utf8EncodeChar ·)).flatMap Shape.seqParts
      = cs.map (.literal <| String.utf8EncodeChar ·) := by
    rw [List.flatMap_map, List.map_eq_flatMap]
    rfl
  rw [shape, elements_literal, List.append_nil, Shape.concat, hparts, joinRuns_literals]
  by_cases hbytes : bytesOf cs = []
  · simp [runOf, hbytes, Shape.seqParts]
  · simp [runOf, hbytes, Shape.seqParts]

/-- **The simplified form** of a text without marks between the anchors. -/
lemma shape_between_literal (cs : List Char) : (between (literal cs)).shape
    = .seq (.look .textStart :: (runOf (bytesOf cs) ++ [.look .textEnd])) := by
  have helements : elements (between (literal cs)) []
      = [.look .textStart, (literal cs).shape, .look .textEnd] := by
    simp [between, elements]
  rw [shape, helements, Shape.concat]
  simp only [List.flatMap_cons, List.flatMap_nil, seqParts_shape_literal, runOf]
  by_cases hbytes : bytesOf cs = []
  · simp [hbytes, Shape.seqParts, Shape.joinRuns]
  · simp [hbytes, Shape.seqParts, Shape.joinRuns]

/-! ## Metering -/

/-- The meter of some plain states. -/
def Meter.plainStates (n : Nat) : Meter := { states := n, edgeBytes := 0 }

/-- The number of plain states that stay within the limit. -/
def maxStates : Nat := Meter.limit / Meter.stateSize

lemma within_plainStates (n : Nat) : (Meter.plainStates n).within
    = if n ≤ maxStates then some (.plainStates n) else none := by
  have hsize : (Meter.plainStates n).size ≤ Meter.limit ↔ n ≤ maxStates := by
    simp only [Meter.size, Meter.plainStates, maxStates, Meter.limit, Meter.stateSize]
    omega
  simp only [Meter.within, hsize]

namespace Metered

variable {α β : Type}

/-- A part that adds plain states, unless these exceed the limit, and has a result. -/
def Adds (part : Metered α) (a : α) (n : Nat) : Prop :=
  ∀ k ≤ maxStates, part.run (.plainStates k)
    = if k + n ≤ maxStates then some (a, .plainStates (k + n)) else none

lemma adds_pure (a : α) : Adds (pure a) a 0 := by
  intro k hk
  rw [Nat.add_zero, if_pos hk]
  rfl

lemma adds_follow : Adds (follow false) () 0 := adds_pure ()

lemma Adds.bind {part : Metered α} {next : α → Metered β} {a : α} {b : β} {m n : Nat}
    (h : Adds part a m) (hnext : Adds (next a) b n) : Adds (part >>= next) b (m + n) := by
  intro k hk
  rw [StateT.run_bind, h k hk]
  by_cases hm : k + m ≤ maxStates
  · rw [if_pos hm, ← Nat.add_assoc]
    exact hnext _ hm
  · rw [if_neg hm, if_neg (by omega)]
    rfl

lemma Adds.of_eq {part : Metered α} {a : α} {m n : Nat} (h : Adds part a m) (heq : m = n) :
    Adds part a n := heq ▸ h

/-- Whether a part goes through from the start. -/
lemma Adds.isSome_run {part : Metered α} {a : α} {n : Nat} (h : Adds part a n) :
    (part.run .zero).isSome = true ↔ n ≤ maxStates := by
  have hrun := h 0 (Nat.zero_le _)
  rw [Nat.zero_add] at hrun
  show (part.run (.plainStates 0)).isSome = true ↔ _
  rw [hrun]
  split
  · next hn => simp [hn]
  · next hn => simp [hn]

lemma adds_plain : Adds plain false 1 := by
  intro k _
  show ((Meter.plainStates (k + 1)).within.map fun next => (k, next)).bind _ = _
  rw [within_plainStates]
  split
  · rfl
  · rfl

/-! Parts one after the other add what each of them adds. -/

lemma adds_continueWith_nil : Adds (continueWith false []) false 0 := adds_pure false

lemma Adds.continueWith {part : Metered Bool} {parts : List (Metered Bool)} {m n : Nat}
    (hpart : Adds part false m) (hparts : Adds (continueWith false parts) false n) :
    Adds (Metered.continueWith false (part :: parts)) false (m + n) :=
  (hpart.bind (adds_follow.bind hparts)).of_eq (by rw [Nat.zero_add])

lemma Adds.inSequence {part : Metered Bool} {parts : List (Metered Bool)} {m n : Nat}
    (hpart : Adds part false m) (hparts : Adds (Metered.continueWith false parts) false n) :
    Adds (Metered.inSequence (part :: parts)) false (m + n) :=
  hpart.bind hparts

lemma adds_continueWith_plain (bytes : List UInt8) :
    Adds (continueWith false (bytes.map fun _ => plain)) false bytes.length := by
  induction bytes with
  | nil => exact adds_continueWith_nil
  | cons _ bytes ih => exact (adds_plain.continueWith ih).of_eq (Nat.add_comm 1 bytes.length)

/-- A run of bytes adds a state for each of them. -/
lemma adds_literal (backward : Bool) {bytes : List UInt8} (hne : bytes ≠ []) :
    Adds (ofShape backward (.literal bytes)) false bytes.length := by
  obtain ⟨b, rest, rfl⟩ := List.exists_cons_of_ne_nil hne
  exact (adds_plain.inSequence (adds_continueWith_plain rest)).of_eq (Nat.add_comm 1 rest.length)

/-- Between the anchors there are two states more; the parts are the same in both directions. -/
lemma adds_between (backward : Bool) (bytes : List UInt8) :
    Adds (ofShape backward (.seq (.look .textStart :: (runOf bytes ++ [.look .textEnd])))) false
      (bytes.length + 2) := by
  have hlook (l : Look) : Adds (ofShape backward (.look l)) false 1 := adds_plain
  have hlast := (hlook .textEnd).continueWith adds_continueWith_nil
  by_cases hne : bytes = []
  · subst hne
    have hparts := (hlook .textStart).inSequence hlast
    cases backward <;> exact hparts
  · have hparts := ((hlook .textStart).inSequence
      ((adds_literal backward hne).continueWith hlast)).of_eq (Nat.add_comm 1 (bytes.length + 1))
    rw [runOf, if_neg hne]
    cases backward <;> exact hparts

/-- A shape that starts and ends the text has a single state before it and one after it, and forward
two for the capture of the whole match. -/
lemma adds_automaton (backward : Bool) {p : Shape} {n : Nat}
    (hanchored : (if backward then p.endsText else p.startsText) = true)
    (h : Adds (ofShape backward p) false n) :
    Adds (automaton backward p) () (if backward then n + 2 else n + 4) := by
  have hend : Adds (plain >>= fun _ => follow false >>= fun _ => follow false) () 1 :=
    (adds_plain.bind (adds_follow.bind adds_follow)).of_eq rfl
  unfold automaton lead
  rw [hanchored]
  cases backward with
  | true => exact (adds_plain.bind (h.bind hend)).of_eq (show 1 + (n + 1) = n + 2 by omega)
  | false =>
      have hbody := h.continueWith (adds_plain.continueWith adds_continueWith_nil)
      have hcapture : Adds (ofShape false (.capture 0 p)) false (n + 2) :=
        (adds_plain.inSequence hbody).of_eq (Nat.add_comm 1 (n + 1))
      exact (adds_plain.bind (hcapture.bind hend)).of_eq (show 1 + (n + 2 + 1) = n + 4 by omega)

end Metered

/-! ## The limit -/

/-- The greatest number of bytes of a text without marks that is small enough between the anchors:
six states stand around those of its bytes. -/
def literalLimit : Nat := maxStates - 6

/-- **A text without marks is small enough** if it has no more bytes than that. -/
theorem compilable_between_literal_iff (cs : List Char) :
    (between (literal cs)).Compilable ↔ (bytesOf cs).length ≤ literalLimit := by
  have hstarts : (between (literal cs)).shape.startsText = true := by
    rw [shape_between_literal]
    rfl
  have hends : (between (literal cs)).shape.endsText = true := by
    rw [shape_between_literal, runOf]
    split
    · rfl
    · rfl
  have hadds (backward : Bool) : Metered.Adds (.ofShape backward (between (literal cs)).shape) false
      ((bytesOf cs).length + 2) := by
    rw [shape_between_literal]
    exact Metered.adds_between backward (bytesOf cs)
  have hlimit : literalLimit + 6 = maxStates := rfl
  -- backward there is no capture, so the forward automaton decides
  rw [Compilable, (Metered.adds_automaton false hstarts (hadds false)).isSome_run,
    (Metered.adds_automaton true hends (hadds true)).isSome_run]
  simp only [if_true, Bool.false_eq_true, if_false]
  omega

lemma length_bytesOf (s : String) : (bytesOf s.toList).length = s.utf8ByteSize := by
  have hbytes : s.toByteArray = (bytesOf s.toList).toByteArray := by
    rw [← String.ofList_toList (s := s), String.toByteArray_ofList, List.utf8Encode,
      String.toList_ofList, bytesOf]
  rw [String.utf8ByteSize, hbytes, List.size_toByteArray]

/-- What is made of a text without marks. -/
lemma compiled?_markless_iff {s : String} (h : Markless s.toList) {q : Pattern} :
    compiled? s = some q ↔ q = between (literal s.toList) ∧ s.utf8ByteSize ≤ literalLimit := by
  rw [compiled?_iff_whole?, whole?_markless h, Option.some.injEq, ← length_bytesOf,
    ← compilable_between_literal_iff]
  constructor
  · rintro ⟨rfl, hq⟩
    exact ⟨rfl, hq⟩
  · rintro ⟨rfl, hq⟩
    exact ⟨rfl, hq⟩

end RadarConform.Pattern
