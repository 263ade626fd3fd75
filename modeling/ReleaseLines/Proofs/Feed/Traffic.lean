import ReleaseLines.Matrix.Builder
import ReleaseLines.Proofs.Feed.Attempts

namespace ReleaseLines

open Act

namespace Feed

/-- Where a cycle stands on a day, by its first entry. -/
def Catalog.standingOn (catalog : Catalog) (cycle : String) (today : Date) : Standing :=
  match catalog.find? cycle with
  | none => .live
  | some entry => entry.endOfLife.standing today

theorem standing_eq (cycle : String) (catalog : Catalog) :
    standing cycle catalog = (Act.ask Desk.today >>= fun today =>
      match catalog.standingOn cycle today with
      | .unreadable published => do
        Act.log .debug ("Unparsable EOL date for " ++ cycle ++ ": " ++ Text.quoted published ++
          ", assuming supported")
        return catalog.standingOn cycle today
      | _ => return catalog.standingOn cycle today) := rfl

theorem noted_standing (cycle : String) (catalog : Catalog) : Noted (standing cycle catalog) := by
  rw [standing_eq]
  refine .bind (.ask _) fun today => ?_
  cases catalog.standingOn cycle today with
  | unreadable published => exact .bind (Noted.log _ _) fun _ => .pure _
  | live | ended since => exact .pure _

theorem noted_isEnded (cycle : String) (catalog : Catalog) : Noted (isEnded cycle catalog) := by
  refine .bind (noted_standing cycle catalog) fun found => ?_
  split
  · exact .pure _
  · exact .pure _

theorem noted_liveCycles (catalog : Catalog) (minimum : String) (entries : List Entry) :
    Noted (liveCycles catalog minimum entries) := by
  induction entries with
  | nil => exact .pure _
  | cons entry rest ih =>
    unfold liveCycles
    split
    · exact .bind (noted_isEnded _ _) fun _ => .bind ih fun _ => .pure _
    · exact ih

theorem sameTraffic_supported (client : Client) (minimum : String) (desk : Desk) :
    SameTraffic (client.supported minimum desk) (client.fetch desk) :=
  sameTraffic_bind (fun catalog => (noted_liveCycles catalog minimum catalog).isLocal) desk

end Feed

variable {σ : Type}

theorem noted_resolve (expression : String) (candidates : List String) :
    Noted (resolve expression candidates : Act σ (List String)) := by
  unfold resolve
  split
  · exact .fail _
  · split
    · exact .fail _
    · refine .bind (.ofExcept _) fun _ => .bind (Noted.log _ _) fun _ => .bind (.ofValue _) fun _ => ?_
      split
      · exact .fail _
      · exact .pure _

theorem noted_fallbackCandidates {provider : Provider σ} (h : Noted provider.fallback) :
    Noted provider.fallbackCandidates :=
  .bind h fun _ => .bind (.ofValue _) fun _ => .pure _

/-- Online, all that is done after asking which lines are supported is noted in the log. -/
theorem exists_candidates_eq_either {provider : Provider σ} (h : Noted provider.fallback) :
    ∃ next : Except Fault (List String) → Act σ (List String × String),
      provider.candidates false = provider.supported.either next ∧ ∀ result, Noted (next result) := by
  rw [Provider.candidates, if_neg Bool.false_ne_true]
  refine ⟨_, rfl, fun result => ?_⟩
  split
  · split
    · exact .bind (Noted.log _ _) fun _ => noted_fallbackCandidates h
    · exact .fail _
  · exact .bind (Noted.log _ _) fun _ => noted_fallbackCandidates h
  · exact .bind (.ofValue _) fun _ => .pure _

theorem sameTraffic_candidates {provider : Provider σ} (h : Noted provider.fallback) (state : σ) :
    SameTraffic (provider.candidates false state) (provider.supported state) := by
  obtain ⟨next, hcandidates, hnext⟩ := exists_candidates_eq_either h
  rw [hcandidates]
  exact sameTraffic_either (fun result => (hnext result).isLocal) state

theorem noted_candidates_offline {provider : Provider σ} (h : Noted provider.fallback) :
    Noted (provider.candidates true) :=
  .bind (Noted.log _ _) fun _ => noted_fallbackCandidates h

namespace SupportMatrix

theorem noted_publish (expression : String) (chosen : List String × String) :
    Noted (do
      let versions ← resolve expression chosen.1
      Act.log .info ("Python support matrix for '" ++ expression ++ "': " ++ Text.listed versions ++
        " (source: " ++ chosen.2 ++ ")")
      return ⟨versions, expression, chosen.2, chosen.1⟩ : Act σ SupportMatrix) :=
  .bind (noted_resolve _ _) fun _ => .bind (Noted.log _ _) fun _ => .pure _

theorem build_of_error {expression : String} {provider : Option (Provider σ)} {offline : Bool}
    {fault : Fault} (h : Expression.read expression = .error fault) (state : σ) :
    build expression provider offline state = ⟨.error fault, state, []⟩ := by
  rw [build, h]
  rfl

theorem sameTraffic_build {expression : String} {provider : Option (Provider σ)} {offline : Bool}
    {found : List Constraint} (h : Expression.read expression = .ok found) (state : σ) :
    SameTraffic (build expression provider offline state) (candidatesOf provider offline state) := by
  rw [build, h]
  exact sameTraffic_bind (fun chosen => (noted_publish expression chosen).isLocal) state

/-- Building asks for the feed as the provider does, or leaves everything as it was. -/
theorem build_traffic_cases (provider : Provider σ) (h : Noted provider.fallback)
    (expression : String) (offline : Bool) (state : σ) :
    SameTraffic (build expression (some provider) offline state) (provider.supported state) ∨
      SameTraffic (build expression (some provider) offline state)
        (⟨.ok (), state, []⟩ : Outcome σ Unit) := by
  cases hread : Expression.read expression with
  | error fault =>
    rw [build_of_error hread]
    exact .inr ⟨rfl, rfl⟩
  | ok found =>
    have htraffic : SameTraffic (build expression (some provider) offline state) _ :=
      sameTraffic_build hread state
    cases offline with
    | false => exact .inl (htraffic.trans (sameTraffic_candidates h state))
    | true => exact .inr (htraffic.trans ((noted_candidates_offline h).isLocal.sameTraffic state))

end SupportMatrix

end ReleaseLines
