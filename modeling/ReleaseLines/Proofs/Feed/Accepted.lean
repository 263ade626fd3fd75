import ReleaseLines.Proofs.Feed.Rules
import Mathlib.Data.List.Forall2

namespace ReleaseLines.Feed

/-- A mark says what a member of a feed object says; one that is absent or null says nothing. -/
def Mark.Shows (mark : Mark) (value : Option Json) : Prop :=
  match mark with
  | unknown => value = none ∨ value = some .null
  | date published => value = some (.str published)
  | flag ended => value = some (.bool ended)

/-- An entry has the cycle of a feed object and what it says of the end of the line. -/
structure Entry.Shows (entry : Entry) (members : List (String × Json)) : Prop where
  cycle : members.lookup "cycle" = some (.str entry.cycle)
  cycle_ne_empty : entry.cycle ≠ ""
  endOfLife : entry.endOfLife.Shows (members.lookup "eol")
  support : entry.support.Shows (members.lookup "support")

/-- A catalog has an entry for each object of a payload, in the same order. -/
def Catalog.Shows (catalog : Catalog) (payload : Json) : Prop :=
  ∃ objects : List (List (String × Json)), payload = .arr (objects.map .obj) ∧
    List.Forall₂ Entry.Shows catalog objects

theorem Mark.shows_of_isMarkValue {members : List (String × Json)} {name : String}
    (h : ∀ value, members.lookup name = some value → IsMarkValue value) :
    (Mark.ofJson (Json.member members name)).Shows (members.lookup name) := by
  cases hvalue : members.lookup name with
  | none => simp [Json.member, hvalue, Mark.ofJson, Mark.Shows]
  | some value =>
    have hmark := h value hvalue
    cases value <;> simp_all [Json.member, Mark.ofJson, Mark.Shows, IsMarkValue]

theorem Entry.shows_of_isDocumentedObject {members : List (String × Json)}
    (h : IsDocumentedObject members) : (Entry.ofJson (.obj members)).Shows members := by
  obtain ⟨name, hne, hname⟩ := h.cycle
  have hentry : (Entry.ofJson (.obj members)).cycle = name := by
    simp [Entry.ofJson, Entry.ofMembers, hname, Json.display]
  refine ⟨?_, ?_, ?_, ?_⟩
  · rw [hentry, hname]
  · rwa [hentry]
  · exact Mark.shows_of_isMarkValue h.endOfLife
  · exact Mark.shows_of_isMarkValue h.support

/-- The entries of an accepted payload are those of its objects, one for each. -/
theorem Payload.shows_of_validate {payload : Json} (h : validate payload = .ok ()) :
    (entries payload).Shows payload ∧ entries payload ≠ [] := by
  obtain ⟨objects, rfl, hne, hobjects⟩ := validate_eq_ok_iff.mp h
  refine ⟨⟨objects, rfl, ?_⟩, ?_⟩
  · rw [entries, List.map_map, List.forall₂_map_left_iff, List.forall₂_same]
    intro members hmembers
    exact Entry.shows_of_isDocumentedObject (hobjects members hmembers).1
  · simpa [entries] using hne

end ReleaseLines.Feed
