import RadarConform.Proofs.Computation
import RadarConform.Text.Raw

/-!
# When there is a text

What the system hands over is a text exactly if nothing in it is no character, and then it is one
text only.

* `RawUnit.chars?_eq_some_iff`, `RawText.toText?_eq_some_iff` — **what there is a text of**.
* `RawText.char_mem_units_ofText` — a text keeps its characters.
-/

namespace RadarConform

namespace RawUnit

lemma char?_eq_some_iff {u : RawUnit} {c : Char} : u.char? = some c ↔ u = .char c := by
  cases u with
  | char d => simp [char?]
  | stray bytes => simp [char?]

lemma char_injective : Function.Injective RawUnit.char := fun _ _ => RawUnit.char.inj

/-- Only characters are characters of a text. -/
lemma chars?_eq_some_iff {units : List RawUnit} {cs : List Char} :
    chars? units = some cs ↔ units = cs.map .char := by
  rw [chars?, Option.mapM_eq_some_iff]
  simp only [char?_eq_some_iff]
  rw [← List.forall₂_map_right_iff (R := Eq) (f := RawUnit.char), List.forall₂_eq_eq_eq]

end RawUnit

namespace RawText

/-- **There is a text exactly of what is made of one.** -/
lemma toText?_eq_some_iff {t : RawText} {s : String} : t.toText? = some s ↔ t = ofText s := by
  simp only [toText?, Option.map_eq_some_iff, RawUnit.chars?_eq_some_iff, RawText.ext_iff,
    units_ofText]
  constructor
  · rintro ⟨cs, hcs, rfl⟩
    rw [hcs, String.toList_ofList]
  · intro h
    exact ⟨s.toList, h, String.ofList_toList⟩

@[simp] lemma char_mem_units_ofText {c : Char} {s : String} :
    .char c ∈ (ofText s).units ↔ c ∈ s.toList := by
  rw [units_ofText, List.mem_map_of_injective RawUnit.char_injective]

end RawText

end RadarConform
