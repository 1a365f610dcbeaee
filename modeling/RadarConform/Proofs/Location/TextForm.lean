import RadarConform.Exchange.Reading
import RadarConform.Proofs.Location.Spelling

/-!
# The text form names the location

Locations are read from texts, or taken from read ones: the group around an attribute, a group on
the way to another.  All of these are normal, so their text forms tell them apart.  A location that
is built from a name which holds a separator, or from a blank one, is not among them.

* `Normal.container_eq`, `Normal.enclosing` — groups on the way to a normal location are normal.
* `Obtained`, `normal_of_obtained` — **what reading and taking parts lead to is normal**.
* `parse_text_of_obtained` — **such a location is read back from its text form**, and two of them
  with the same text form are one.
-/

namespace RadarConform.Location

open Text

variable {l : Location}

/-! ## Groups on the way -/

/-- A segment of a normal location is one segment on its own. -/
lemma Normal.isSegment (h : l.Normal) {s : String} (hs : s ∈ l.segments) : IsSegment s := by
  obtain ⟨hpart, hslash⟩ := h.segments s hs
  refine ⟨hpart.hash_notMem, hslash, ?_⟩
  rw [hpart.trim_eq]
  exact hpart.ne_nil

/-- Building from the segments of a normal location leaves them as they are. -/
lemma Normal.container_eq (h : l.Normal) {segments : List String}
    (hstart : segments <+: l.segments) :
    container segments = { segments, attributeName := none } := by
  have hsegments : ∀ s ∈ segments, segmentsOf s.toList = [s] := by
    intro s hs
    have hmem : s ∈ l.segments := hstart.subset hs
    rw [(h.isSegment hmem).segmentsOf_eq, (h.segments s hmem).1.trim_eq, String.ofList_toList]
  rw [container, List.flatMap_congr hsegments, List.flatMap_singleton']

lemma Normal.container (h : l.Normal) {segments : List String} (hstart : segments <+: l.segments) :
    (container segments).Normal := by
  rw [h.container_eq hstart]
  exact ⟨fun s hs => h.segments s (hstart.subset hs), nofun⟩

lemma Normal.enclosing (h : l.Normal) : l.enclosing.Normal := ⟨h.segments, nofun⟩

/-! ## Reading and taking parts -/

/-- The locations that come from texts: read in one of the ways in which texts are read, or taken
from such a location as the group around it or a group on the way to it. -/
inductive Obtained : Location → Prop
  | read {input : String} {l : Location} : parse input = .ok l → Obtained l
  | readAttribute {input : String} {l : Location} : parseAttribute input = .ok l → Obtained l
  | decoded {o : Json.Outline} {l : Location} : ofOutline? o = some l → Obtained l
  | enclosing {l : Location} : Obtained l → Obtained l.enclosing
  | onTheWay {l : Location} {segments : List String} : Obtained l → segments <+: l.segments →
      Obtained (container segments)

lemma normal_of_ofOutline? {o : Json.Outline} (h : ofOutline? o = some l) : l.Normal := by
  obtain ⟨text, -, htext⟩ := Option.bind_eq_some_iff.mp h
  exact normal_of_parse (Except.toOption_eq_some_iff.mp htext)

/-- **Whatever is obtained from texts is normal.** -/
lemma normal_of_obtained (h : Obtained l) : l.Normal := by
  induction h with
  | read hread => exact normal_of_parse hread
  | readAttribute hread => exact normal_of_parseAttribute hread
  | decoded hdecoded => exact normal_of_ofOutline? hdecoded
  | enclosing _ ih => exact ih.enclosing
  | onTheWay _ hstart ih => exact ih.container hstart

/-- **The text form names the location.**  A location that is obtained from texts is read back from
its text form, and that of an attribute also where an attribute is called for.  So two such
locations have the same text form exactly if they are the same. -/
theorem parse_text_of_obtained (h : Obtained l) :
    parse l.text = .ok l ∧ (l.isAttribute = true → parseAttribute l.text = .ok l) ∧
      ∀ k, Obtained k → (l.text = k.text ↔ l = k) := by
  have hnormal := normal_of_obtained h
  refine ⟨hnormal.parse_text_eq, hnormal.parseAttribute_text_eq, fun k hk => ⟨fun htext => ?_, ?_⟩⟩
  · have hparse := hnormal.parse_text_eq
    rw [htext, (normal_of_obtained hk).parse_text_eq] at hparse
    exact (Except.ok.inj hparse).symm
  · rintro rfl
    rfl

/-- An attribute whose name holds a slash and white space. -/
def startTime : Location := { segments := ["how", "scan"], attributeName := some "start /time" }

/-- The attribute, and a group on the way to it whose text form is the start of its own. -/
theorem parse_text_of_obtained_startTime :
    Obtained startTime ∧ Obtained (container ["how"]) ∧
      parse "/how/scan#start /time" = .ok startTime ∧
      parseAttribute "/how/scan#start /time" = .ok startTime ∧
      ("/how/scan#start /time" = (container ["how"]).text ↔ startTime = container ["how"]) := by
  have hobtained : Obtained startTime := @Obtained.read " //how/ scan\u2003# start /time" _ rfl
  have hgroup : Obtained (container ["how"]) := hobtained.onTheWay ⟨["scan"], rfl⟩
  obtain ⟨hparse, hattribute, htext⟩ := parse_text_of_obtained hobtained
  have hform : startTime.text = "/how/scan#start /time" := by decide
  rw [← hform]
  exact ⟨hobtained, hgroup, hparse, hattribute rfl, htext _ hgroup⟩

end RadarConform.Location
