import ReleaseLines.Proofs.Feed.Traffic

namespace ReleaseLines

namespace Feed

open Act

/-- The end of a line has come: it is published as a date that is over or as a fact. -/
def Mark.HasEnded (mark : Mark) (today : Date) : Prop :=
  match mark with
  | unknown => False
  | date published => ∃ ending, Date.read? published = some ending ∧ ending ≤ today
  | flag ended => ended = true

/-- A cycle of the feed that names a line from 3.9 on, the first entry of which has not ended. -/
def Catalog.Supports (catalog : Catalog) (today : Date) (cycle : String) : Prop :=
  (∃ version, Version.read cycle = .ok version ∧ (⟨3, 9⟩ : Version) ≤ version) ∧
    ∃ (before : List Entry) (entry : Entry) (rest : List Entry),
      catalog = before ++ entry :: rest ∧ entry.cycle = cycle ∧
      (∀ other ∈ before, other.cycle ≠ cycle) ∧ ¬entry.endOfLife.HasEnded today

def Standing.isEnd : Standing → Bool
  | ended _ => true
  | _ => false

theorem Mark.isEnd_standing_iff (mark : Mark) (today : Date) :
    (mark.standing today).isEnd = true ↔ mark.HasEnded today := by
  cases mark with
  | unknown => simp [Mark.standing, Standing.isEnd, HasEnded]
  | flag ended => cases ended <;> simp [Mark.standing, Standing.isEnd, HasEnded]
  | date published =>
    rw [HasEnded, Mark.standing]
    cases Date.read? published with
    | none => simp [Standing.isEnd]
    | some ending =>
      by_cases hle : ending ≤ today
      · simp [hle, Standing.isEnd]
      · simp [hle, Standing.isEnd]

theorem standing_result (cycle : String) (catalog : Catalog) (desk : Desk) :
    (standing cycle catalog desk).result = .ok (catalog.standingOn cycle desk.today) := by
  have hask : (Act.ask Desk.today desk).result = .ok desk.today := rfl
  rw [standing_eq, result_bind hask]
  cases catalog.standingOn cycle desk.today <;> rfl

theorem isEnded_result (cycle : String) (catalog : Catalog) (desk : Desk) :
    ∃ since, (isEnded cycle catalog desk).result =
        .ok ((catalog.standingOn cycle desk.today).isEnd, since) ∧
      ((catalog.standingOn cycle desk.today).isEnd = false → since = "") := by
  rw [isEnded, result_bind (standing_result cycle catalog desk)]
  cases catalog.standingOn cycle desk.today with
  | ended since => exact ⟨since, rfl, nofun⟩
  | live | unreadable => exact ⟨"", rfl, fun _ => rfl⟩

/-- Whether a cycle is one of the supported ones. -/
def Catalog.isLive (catalog : Catalog) (minimum : String) (today : Date) (cycle : String) : Bool :=
  Version.isAtLeast cycle minimum && !(catalog.standingOn cycle today).isEnd

theorem liveCycles_result (catalog : Catalog) (minimum : String) (entries : List Entry)
    (desk : Desk) :
    (liveCycles catalog minimum entries desk).result =
      .ok ((entries.map (·.cycle)).filter (catalog.isLive minimum desk.today)) := by
  induction entries with
  | nil => rfl
  | cons entry rest ih =>
    rw [List.map_cons, liveCycles]
    cases hleast : Version.isAtLeast entry.cycle minimum with
    | false =>
      have hnot : ¬catalog.isLive minimum desk.today entry.cycle = true := by
        simp [Catalog.isLive, hleast]
      rw [if_neg Bool.false_ne_true, ih, List.filter_cons_of_neg hnot]
    | true =>
      obtain ⟨since, hended, _⟩ := isEnded_result entry.cycle catalog desk
      rw [if_pos rfl, result_bind hended, (noted_isEnded entry.cycle catalog).isLocal.state_eq,
        result_bind ih]
      cases hend : (catalog.standingOn entry.cycle desk.today).isEnd with
      | true =>
        have hnot : ¬catalog.isLive minimum desk.today entry.cycle = true := by
          simp [Catalog.isLive, hend]
        rw [List.filter_cons_of_neg hnot]
        rfl
      | false =>
        have hlive : catalog.isLive minimum desk.today entry.cycle = true := by
          simp [Catalog.isLive, hleast, hend]
        rw [List.filter_cons_of_pos hlive]
        rfl

theorem supported_result {client : Client} {desk : Desk} {catalog : Catalog}
    (h : (client.fetch desk).result = .ok catalog) (minimum : String) :
    (client.supported minimum desk).result = .ok (catalog.cycles.filter
      (catalog.isLive minimum (client.fetch desk).state.today)) := by
  rw [Client.supported, result_bind h]
  exact liveCycles_result catalog minimum catalog _

theorem isAtLeast_oldestLine_iff (cycle : String) :
    Version.isAtLeast cycle oldestLine = true ↔
      ∃ version, Version.read cycle = .ok version ∧ (⟨3, 9⟩ : Version) ≤ version := by
  have holdest : Version.read oldestLine = .ok ⟨3, 9⟩ := rfl
  rw [Version.isAtLeast, holdest]
  cases Version.read cycle with
  | error problem => simp
  | ok version => simp

theorem Catalog.find?_eq_some_iff (catalog : Catalog) (cycle : String) (entry : Entry) :
    catalog.find? cycle = some entry ↔ entry.cycle = cycle ∧ ∃ before rest,
      catalog = before ++ entry :: rest ∧ ∀ other ∈ before, other.cycle ≠ cycle := by
  rw [Catalog.find?, List.find?_eq_some_iff_append]
  simp only [beq_iff_eq, Bool.not_eq_true', beq_eq_false_iff_ne]

theorem mem_liveCycles_iff (catalog : Catalog) (today : Date) (cycle : String) :
    cycle ∈ catalog.cycles.filter (catalog.isLive oldestLine today) ↔
      catalog.Supports today cycle := by
  rw [List.mem_filter, Catalog.isLive, Bool.and_eq_true, isAtLeast_oldestLine_iff, Catalog.Supports,
    Bool.not_eq_true', Catalog.standingOn]
  constructor
  · rintro ⟨hmem, hleast, hlive⟩
    refine ⟨hleast, ?_⟩
    cases hfind : catalog.find? cycle with
    | none =>
      obtain ⟨entry, hentry, hcycle⟩ := List.mem_map.mp hmem
      have hne := List.find?_eq_none.mp hfind entry hentry
      exact absurd (beq_iff_eq.mpr hcycle) hne
    | some entry =>
      rw [hfind] at hlive
      obtain ⟨hcycle, before, rest, hcatalog, hfirst⟩ :=
        (catalog.find?_eq_some_iff cycle entry).mp hfind
      refine ⟨before, entry, rest, hcatalog, hcycle, hfirst, ?_⟩
      rw [← Mark.isEnd_standing_iff, Bool.not_eq_true]
      exact hlive
  · rintro ⟨hleast, before, entry, rest, hcatalog, hcycle, hfirst, hlive⟩
    have hfind := (catalog.find?_eq_some_iff cycle entry).mpr
      ⟨hcycle, before, rest, hcatalog, hfirst⟩
    refine ⟨List.mem_map.mpr ⟨entry, by simp [hcatalog], hcycle⟩, hleast, ?_⟩
    rw [← Mark.isEnd_standing_iff, Bool.not_eq_true] at hlive
    rw [hfind]
    exact hlive

theorem Catalog.Supports.isEnd_eq_false {catalog : Catalog} {today : Date} {cycle : String}
    (h : catalog.Supports today cycle) : (catalog.standingOn cycle today).isEnd = false := by
  have hlive := (List.mem_filter.mp ((mem_liveCycles_iff catalog today cycle).mpr h)).2
  rw [Catalog.isLive, Bool.and_eq_true, Bool.not_eq_true'] at hlive
  exact hlive.2

theorem isEnded_of_supports {catalog : Catalog} {cycle : String} {desk : Desk}
    (h : catalog.Supports desk.today cycle) :
    (isEnded cycle catalog desk).result = .ok (false, "") := by
  obtain ⟨since, hended, hsince⟩ := isEnded_result cycle catalog desk
  rw [hended, hsince h.isEnd_eq_false, h.isEnd_eq_false]

/-- A line from 3.9 on that is not supported has ended, provided the feed lists it. -/
theorem isEnded_iff_of_not_supports {catalog : Catalog} {cycle : String} {desk : Desk}
    (hleast : Version.isAtLeast cycle oldestLine = true) (h : ¬catalog.Supports desk.today cycle) :
    (∃ since, (isEnded cycle catalog desk).result = .ok (true, since)) ↔
      cycle ∈ catalog.cycles := by
  obtain ⟨since, hended, _⟩ := isEnded_result cycle catalog desk
  rw [hended]
  rw [← mem_liveCycles_iff, List.mem_filter, Catalog.isLive, hleast, Bool.true_and] at h
  constructor
  · rintro ⟨_, heq⟩
    have hend : (catalog.standingOn cycle desk.today).isEnd = true :=
      (Prod.mk.inj (Except.ok.inj heq)).1
    cases hfind : catalog.find? cycle with
    | none =>
      rw [Catalog.standingOn, hfind] at hend
      cases hend
    | some entry =>
      obtain ⟨rfl, before, rest, rfl, _⟩ := (catalog.find?_eq_some_iff cycle entry).mp hfind
      exact List.mem_map.mpr ⟨entry, by simp, rfl⟩
  · intro hmem
    cases hend : (catalog.standingOn cycle desk.today).isEnd with
    | true => exact ⟨since, rfl⟩
    | false => exact absurd ⟨hmem, by rw [hend]; rfl⟩ h

end Feed

end ReleaseLines
