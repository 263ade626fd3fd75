import ReleaseLines.Configuration.Basic
import ReleaseLines.Proofs.Act.Keeps

namespace ReleaseLines

variable {σ : Type}

open Act

/-- An address of which the feed can be asked for. -/
structure Address.IsAskable (a : Address) : Prop where
  scheme : a.scheme = "http" ∨ a.scheme = "https"
  host : a.host ≠ ""

namespace Configuration

/-- A configuration that passes every check but that of its address. -/
structure IsSound (c : Configuration) : Prop where
  expression : Text.isBlankText c.expression = false
  timeout : c.timeout.isAtMostZero = false
  retries : 0 ≤ c.retries
  outputFormat : c.outputFormat ∈ outputFormats
  logLevel : Text.uppercase c.logLevel ∈ logLevels

/-- The address is never used, or the feed can be asked for at it. -/
def CanAsk (c : Configuration) : Prop :=
  c.offline = true ∨ ∃ a, Address.read c.address = .ok a ∧ a.IsAskable

/-- A configuration whose address cannot be read, where nothing else keeps it from being looked
at. -/
structure IsMisread (c : Configuration) : Prop where
  sound : c.IsSound
  online : c.offline = false
  unreadable : ∃ problem, Address.read c.address = .error problem

theorem not_isMisread_of_canAsk {c : Configuration} (h : c.CanAsk) : ¬c.IsMisread := by
  rintro ⟨_, honline, problem, hproblem⟩
  rcases h with hoffline | ⟨a, hread, _⟩
  · rw [honline] at hoffline
    cases hoffline
  · cases hread.symm.trans hproblem

theorem checkAddress_of_error {text : String} {problem : BadValue}
    (h : Address.read text = .error problem) (state : σ) :
    checkAddress text state = ⟨.error (.badValue problem), state, []⟩ := by
  rw [checkAddress, h]
  rfl

theorem checkAddress_of_ok {text : String} {a : Address} (h : Address.read text = .ok a)
    (state : σ) :
    (∃ reason, ¬a.IsAskable ∧
      checkAddress text state = ⟨.error (.configuration reason), state, []⟩) ∨
    (a.IsAskable ∧ (checkAddress text state).result = .ok ()) := by
  have hread : (Act.ofValue (Address.read text) state).result = .ok a := ofValue_result h state
  have hstart : Act.ofValue (Address.read text) state = ⟨.ok a, state, []⟩ := by rw [h]; rfl
  rw [checkAddress, bind_apply_of_ok hread, hstart]
  split
  next hscheme =>
    refine .inl ⟨_, fun hask => ?_, rfl⟩
    rcases hask.scheme with hname | hname
    · simp [hname] at hscheme
    · simp [hname] at hscheme
  next hscheme =>
    split
    next hhost => exact .inl ⟨_, fun hask => hask.host (by simpa using hhost), rfl⟩
    next hhost =>
      have hname : a.scheme = "http" ∨ a.scheme = "https" := by
        rw [Decidable.or_iff_not_imp_left]
        simpa using hscheme
      refine .inr ⟨⟨hname, by simpa using hhost⟩, ?_⟩
      split
      · rfl
      · rfl

theorem noted_checkAddress (text : String) : Noted (checkAddress text : Act σ Unit) := by
  refine .bind (.ofValue _) fun address => ?_
  split
  · exact .fail _
  · split
    · exact .fail _
    · split
      · exact Noted.log _ _
      · exact .pure ()

theorem validate_of_not_isSound {c : Configuration} (h : ¬c.IsSound) (state : σ) :
    ∃ reason, c.validate state = ⟨.error (.configuration reason), state, []⟩ := by
  unfold validate
  split
  · exact ⟨_, rfl⟩
  split
  · exact ⟨_, rfl⟩
  split
  · exact ⟨_, rfl⟩
  split
  · exact ⟨_, rfl⟩
  split
  · exact ⟨_, rfl⟩
  rename_i hexpression htimeout hretries hformat hlevel
  exact absurd ⟨by simpa using hexpression, by simpa using htimeout, by omega,
    by simpa using hformat, by simpa using hlevel⟩ h

theorem validate_of_isSound {c : Configuration} (h : c.IsSound) :
    (c.validate : Act σ Unit) = if c.offline then Pure.pure () else checkAddress c.address := by
  unfold validate
  rw [if_neg (by simp [h.expression]), if_neg (by simp [h.timeout]),
    if_neg (Int.not_lt.mpr h.retries), if_neg (by simpa using h.outputFormat),
    if_neg (by simpa using h.logLevel)]

theorem validate_cases (c : Configuration) (state : σ) :
    (c.IsSound ∧ c.CanAsk ∧ (c.validate state).result = .ok ()) ∨
    (∃ reason, ¬(c.IsSound ∧ c.CanAsk) ∧ ¬c.IsMisread ∧
      c.validate state = ⟨.error (.configuration reason), state, []⟩) ∨
    (∃ problem, c.IsMisread ∧ Address.read c.address = .error problem ∧
      c.validate state = ⟨.error (.badValue problem), state, []⟩) := by
  by_cases hsound : c.IsSound
  · rw [validate_of_isSound hsound]
    cases honline : c.offline with
    | true => exact .inl ⟨hsound, .inl honline, rfl⟩
    | false =>
      cases hread : Address.read c.address with
      | error problem =>
        exact .inr (.inr ⟨problem, ⟨hsound, honline, problem, hread⟩, rfl,
          checkAddress_of_error hread state⟩)
      | ok a =>
        rcases checkAddress_of_ok hread state with ⟨reason, hask, hrefused⟩ | ⟨hask, hpassed⟩
        · refine .inr (.inl ⟨reason, ?_, ?_, hrefused⟩)
          · rintro ⟨_, hoffline | ⟨b, hb, hbask⟩⟩
            · cases honline.symm.trans hoffline
            · cases hread.symm.trans hb
              exact hask hbask
          · rintro ⟨_, _, problem, hproblem⟩
            cases hread.symm.trans hproblem
        · exact .inl ⟨hsound, .inr ⟨a, hread, hask⟩, hpassed⟩
  · obtain ⟨reason, hrefused⟩ := validate_of_not_isSound hsound state
    exact .inr (.inl ⟨reason, fun h => hsound h.1, fun h => hsound h.sound, hrefused⟩)

theorem noted_validate (c : Configuration) : Noted (c.validate : Act σ Unit) := by
  by_cases hsound : c.IsSound
  · rw [validate_of_isSound hsound]
    split
    · exact .pure ()
    · exact noted_checkAddress c.address
  · intro state
    obtain ⟨reason, hrefused⟩ := validate_of_not_isSound hsound state
    rw [hrefused]
    exact ⟨rfl, fun _ => List.not_mem_nil.elim⟩

theorem noted_make (choices : Choices) (found : Variables) :
    Noted (make choices found : Act σ Configuration) :=
  .bind (noted_validate _) fun _ => .pure _

/-- A configuration is made, or refused with a reason, or its address cannot be read. -/
theorem make_cases (choices : Choices) (found : Variables) (state : σ) :
    ((assemble choices found).IsSound ∧ (assemble choices found).CanAsk ∧
      (make choices found state).result = .ok (assemble choices found)) ∨
    (∃ reason, ¬((assemble choices found).IsSound ∧ (assemble choices found).CanAsk) ∧
      ¬(assemble choices found).IsMisread ∧
      make choices found state = ⟨.error (.configuration reason), state, []⟩) ∨
    (∃ problem, (assemble choices found).IsMisread ∧
      Address.read (assemble choices found).address = .error problem ∧
      make choices found state = ⟨.error (.badValue problem), state, []⟩) := by
  rcases validate_cases (assemble choices found) state with
    ⟨hsound, hask, hpassed⟩ | ⟨reason, hunsound, hreadable, hrefused⟩ |
      ⟨problem, hmisread, hread, hfailed⟩
  · refine .inl ⟨hsound, hask, ?_⟩
    rw [make, result_bind hpassed]
    rfl
  · refine .inr (.inl ⟨reason, hunsound, hreadable, ?_⟩)
    rw [make, bind_apply_of_error (by rw [hrefused]), hrefused]
  · refine .inr (.inr ⟨problem, hmisread, hread, ?_⟩)
    rw [make, bind_apply_of_error (by rw [hfailed]), hfailed]

theorem make_result_eq_ok_iff {choices : Choices} {found : Variables} {state : σ}
    {c : Configuration} :
    (make choices found state).result = .ok c ↔
      c = assemble choices found ∧ c.IsSound ∧ c.CanAsk := by
  rcases make_cases choices found state with
    ⟨hsound, hask, hmade⟩ | ⟨reason, hunsound, _, hrefused⟩ | ⟨problem, hmisread, _, hfailed⟩
  · rw [hmade, Except.ok.injEq]
    constructor
    · rintro rfl
      exact ⟨rfl, hsound, hask⟩
    · rintro ⟨rfl, _, _⟩
      rfl
  · rw [hrefused]
    refine iff_of_false nofun ?_
    rintro ⟨rfl, hvalid⟩
    exact hunsound hvalid
  · rw [hfailed]
    refine iff_of_false nofun ?_
    rintro ⟨rfl, _, hask⟩
    exact not_isMisread_of_canAsk hask hmisread

end Configuration

end ReleaseLines
