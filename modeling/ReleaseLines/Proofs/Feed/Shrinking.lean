import ReleaseLines.Proofs.Calendar.Order
import ReleaseLines.Proofs.Feed.Supported
import Mathlib.Data.List.Basic

namespace ReleaseLines

namespace Feed

theorem Mark.HasEnded.mono {mark : Mark} {today later : Date} (hle : today ≤ later)
    (h : mark.HasEnded today) : mark.HasEnded later := by
  cases mark with
  | unknown => exact h
  | flag ended => exact h
  | date published =>
    obtain ⟨ending, hread, hended⟩ := h
    exact ⟨ending, hread, hended.trans hle⟩

/-- Only a date that can be read comes due; a mark of any other form says the same on every day. -/
theorem Mark.comes_due_iff {mark : Mark} {today later : Date} :
    mark.HasEnded later ∧ ¬mark.HasEnded today ↔
      ∃ published ending, mark = .date published ∧ Date.read? published = some ending ∧
        today < ending ∧ ending ≤ later := by
  constructor
  · intro h
    obtain ⟨hlater, htoday⟩ := h
    cases mark with
    | unknown => exact hlater.elim
    | flag ended => exact absurd hlater htoday
    | date published =>
      obtain ⟨ending, hread, hle⟩ := hlater
      have hafter : ¬ending ≤ today := by
        intro hended
        exact htoday ⟨ending, hread, hended⟩
      exact ⟨published, ending, rfl, hread, lt_of_not_ge hafter, hle⟩
  · intro h
    obtain ⟨published, ending, rfl, hread, hafter, hle⟩ := h
    refine ⟨⟨ending, hread, hle⟩, ?_⟩
    intro hended
    obtain ⟨other, hother, hended⟩ := hended
    obtain rfl := Option.some.inj (hother.symm.trans hread)
    exact hafter.not_ge hended

namespace Catalog

/-- The first entry of a cycle says that it ends after one day and not after another. -/
def EndsBetween (catalog : Catalog) (cycle : String) (today later : Date) : Prop :=
  ∃ entry published ending, catalog.find? cycle = some entry ∧ entry.endOfLife = .date published ∧
    Date.read? published = some ending ∧ today < ending ∧ ending ≤ later

variable {catalog : Catalog} {minimum cycle : String} {today later : Date}

theorem isEnd_standingOn_iff :
    (catalog.standingOn cycle today).isEnd = true ↔
      ∃ entry, catalog.find? cycle = some entry ∧ entry.endOfLife.HasEnded today := by
  rw [standingOn]
  cases catalog.find? cycle with
  | none => simp [Standing.isEnd]
  | some entry => simp [Mark.isEnd_standing_iff]

theorem isLive_of_later (hle : today ≤ later) (h : catalog.isLive minimum later cycle = true) :
    catalog.isLive minimum today cycle = true := by
  rw [isLive, Bool.and_eq_true, Bool.not_eq_true', ← Bool.not_eq_true, isEnd_standingOn_iff] at h ⊢
  refine ⟨h.1, ?_⟩
  intro hended
  obtain ⟨entry, hfind, hended⟩ := hended
  exact h.2 ⟨entry, hfind, hended.mono hle⟩

theorem not_isLive_iff_endsBetween (h : catalog.isLive minimum today cycle = true) :
    ¬catalog.isLive minimum later cycle = true ↔ catalog.EndsBetween cycle today later := by
  rw [isLive, Bool.and_eq_true, Bool.not_eq_true', ← Bool.not_eq_true, isEnd_standingOn_iff] at h
  obtain ⟨hleast, hlive⟩ := h
  rw [isLive, hleast, Bool.true_and, Bool.not_eq_true', Bool.not_eq_false, isEnd_standingOn_iff]
  constructor
  · intro hended
    obtain ⟨entry, hfind, hended⟩ := hended
    have htoday : ¬entry.endOfLife.HasEnded today := fun hnow => hlive ⟨entry, hfind, hnow⟩
    obtain ⟨published, ending, hdate⟩ := Mark.comes_due_iff.mp ⟨hended, htoday⟩
    exact ⟨entry, published, ending, hfind, hdate⟩
  · intro hends
    obtain ⟨entry, published, ending, hfind, hdate⟩ := hends
    exact ⟨entry, hfind, (Mark.comes_due_iff.mpr ⟨published, ending, hdate⟩).1⟩

end Catalog

/-- What is supported only shrinks as the clock goes on: under one catalog the lines of a later
instant are some of those of an earlier one, in order and as often, and a line that is missing is
one that the first entry of its cycle ends in between. -/
theorem supported_shrinks {client : Client} {desk other : Desk} {catalog : Catalog}
    (hdesk : (client.fetch desk).result = .ok catalog)
    (hother : (client.fetch other).result = .ok catalog)
    (hclock : (client.fetch desk).state.now.micros ≤ (client.fetch other).state.now.micros)
    (minimum : String) :
    ∃ before after, (client.supported minimum desk).result = .ok before ∧
      (client.supported minimum other).result = .ok after ∧ after.Sublist before ∧
      (∀ cycle ∈ before, cycle ∉ after ↔ catalog.EndsBetween cycle
        (client.fetch desk).state.today (client.fetch other).state.today) ∧
      ∀ cycle ∈ after, after.count cycle = before.count cycle := by
  have htoday : (client.fetch desk).state.today ≤ (client.fetch other).state.today :=
    Instant.date_mono hclock
  refine ⟨_, _, supported_result hdesk minimum, supported_result hother minimum, ?_, ?_, ?_⟩
  · apply List.monotone_filter_right
    intro cycle
    exact Catalog.isLive_of_later htoday
  · intro cycle hcycle
    obtain ⟨hmem, hlive⟩ := List.mem_filter.mp hcycle
    rw [List.mem_filter, ← Catalog.not_isLive_iff_endsBetween hlive]
    exact not_congr (and_iff_right hmem)
  · intro cycle hcycle
    have hlater := (List.mem_filter.mp hcycle).2
    rw [List.count_filter hlater, List.count_filter (Catalog.isLive_of_later htoday hlater)]

/-- A desk that is handed a feed in which 3.9 stands twice and the end of 3.10 is no date. -/
def Desk.dated (today : Date) : Desk :=
  ⟨none, .ofDate today, false, [.answer 200 none (.payload (.arr
    [.obj [("cycle", .str "3.11"), ("eol", .str "2027-10-31")],
      .obj [("cycle", .str "3.9"), ("eol", .str "2025-10-31")],
      .obj [("cycle", .str "3.10"), ("eol", .str "soon")],
      .obj [("cycle", .str "3.9"), ("eol", .bool false)]]))]⟩

theorem supported_shrinks_as_line_ends :
    ∃ before after, (Client.standard.supported "3.8" (.dated ⟨2025, 10, 30⟩)).result = .ok before ∧
      (Client.standard.supported "3.8" (.dated ⟨2025, 10, 31⟩)).result = .ok after ∧
      after.Sublist before ∧ "3.9" ∈ before ∧ "3.9" ∉ after ∧ "3.10" ∈ after := by
  have hclock : (Client.standard.fetch (.dated ⟨2025, 10, 30⟩)).state.now.micros ≤
      (Client.standard.fetch (.dated ⟨2025, 10, 31⟩)).state.now.micros := by
    decide +kernel
  have hlines : (Client.standard.supported "3.8" (.dated ⟨2025, 10, 30⟩)).result =
      .ok ["3.11", "3.9", "3.10", "3.9"] := by
    decide +kernel
  obtain ⟨before, after, hbefore, hafter, hsublist, hends, _⟩ :=
    supported_shrinks rfl rfl hclock "3.8"
  obtain rfl := Except.ok.inj (hlines.symm.trans hbefore)
  have htoday : (Client.standard.fetch (.dated ⟨2025, 10, 30⟩)).state.today < ⟨2025, 10, 31⟩ := by
    decide +kernel
  have hlater : ⟨2025, 10, 31⟩ ≤ (Client.standard.fetch (.dated ⟨2025, 10, 31⟩)).state.today := by
    decide +kernel
  have hnine : "3.9" ∉ after :=
    (hends "3.9" (by simp)).mpr ⟨_, _, ⟨2025, 10, 31⟩, rfl, rfl, by decide +kernel, htoday, hlater⟩
  have hten : "3.10" ∈ after := by
    by_contra hmissing
    obtain ⟨entry, published, ending, hfind, hdate, hread, _⟩ := (hends "3.10" (by simp)).mp hmissing
    obtain rfl := Option.some.inj hfind
    obtain rfl := Mark.date.inj hdate
    have hsoon : Date.read? "soon" = none := by decide +kernel
    rw [hsoon] at hread
    cases hread
  exact ⟨_, after, hlines, hafter, hsublist, by simp, hnine, hten⟩

end Feed

end ReleaseLines
