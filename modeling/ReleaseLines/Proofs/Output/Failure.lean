import ReleaseLines.Proofs.Act.FailsWith
import ReleaseLines.Proofs.Constraint.Flaw
import ReleaseLines.Proofs.Matrix.Build
import ReleaseLines.Proofs.Output.Run

namespace ReleaseLines

open Act

variable {σ : Type}

theorem Report.isForeign_of_matrixTable {title : String} {lines : List String}
    {catalog : Feed.Catalog} {today : Date} {fault : Fault}
    (h : matrixTable title lines catalog today = .error fault) : fault.IsForeign := by
  rcases except_bind_eq_error_iff.mp h with hrows | ⟨rows, _, htable⟩
  · obtain ⟨_, line, _, _, _, hrow⟩ := exists_of_mapM_eq_error hrows
    unfold matrixRow at hrow
    split at hrow
    · cases hrow
    · rcases except_bind_eq_error_iff.mp hrow with hpatch | ⟨patch, _, hcells⟩
      · unfold patchCell at hpatch
        split at hpatch
        · cases hpatch
        · split at hpatch
          · cases hpatch
          · cases hpatch
            rfl
      · cases hcells
  · cases htable

namespace Output

theorem failsWith_post (c : Configuration) (matrix : SupportMatrix) :
    FailsWith Fault.IsForeign (post c matrix) := by
  have hsummary (title : String) (fields : List (String × Json)) (complete : Bool) :
      FailsWith Fault.IsForeign
        (Report.postSummary title fields complete : Act Feed.Desk Unit) := by
    unfold Report.postSummary
    split
    · exact .pure ()
    · exact .emit _
  have htables : FailsWith Fault.IsForeign (showTables matrix) :=
    .bind (.ask _) fun _ => .bind (.ask _) fun _ =>
      .bind (.ofExcept fun _ => Report.isForeign_of_matrixTable) fun _ =>
        .bind (.emit _) fun _ => hsummary _ _ _
  have hwrite (path : String) : FailsWith Fault.IsForeign (write path matrix) := by
    unfold write
    refine .bind (.ask _) fun name => ?_
    cases name with
    | error problem => exact .fail rfl
    | ok name => exact .bind (.modify _) fun _ => .emit _
  have hshown {later : Act Host Unit} (h : FailsWith Fault.IsForeign later) :
      FailsWith Fault.IsForeign
        (if c.outputFormat == "text" then Host.atDesk (showTables matrix) >>= fun _ => later
        else Act.print matrix.versionsText >>= fun _ => later) := by
    split
    · exact .bind (htables.within _ _) fun _ => h
    · exact .bind (.emit _) fun _ => h
  unfold post
  split
  · apply hshown
    split
    · exact (hwrite _).within _ _
    · exact .emit _
  · exact hshown (.pure ())

end Output

theorem Provider.failsWith_candidates (client : Feed.Client) (offline : Bool) :
    FailsWith Fault.IsForeign (client.provider.candidates offline) := by
  intro state fault h
  have hfallback (offline : Bool) := Provider.sortedFrom_fallbackAnswer
    (show client.provider.fallback = Pure.pure Feed.fallbackLines from rfl) offline state
  rw [candidates_result] at h
  split at h
  · rw [hfallback] at h
    cases h
  split at h
  · split at h
    · rw [hfallback] at h
      cases h
    next hkind =>
      cases h
      simpa [Fault.IsForeign] using hkind
  · rw [hfallback] at h
    cases h
  · rw [sortedFrom] at h
    split at h
    · cases h
      rfl
    · cases h

/-- A matrix is not built for the sake of its expression where this cannot be read or admits no
candidate. -/
theorem SupportMatrix.rejection_of_build {client : Feed.Client} {desk : Feed.Desk}
    {expression : String} {offline : Bool} {fault : Fault}
    (h : (build expression (some client.provider) offline desk).result = .error fault)
    (hkind : fault.IsRejection) :
    Expression.read expression = .error fault ∨ fault = .noMatch expression := by
  rcases exists_of_bind_error h with hread | ⟨found, hread, h⟩
  · cases hresult : Expression.read expression with
    | ok found =>
      rw [hresult] at hread
      cases hread
    | error other =>
      rw [hresult] at hread
      exact .inl (congrArg Except.error (Except.error.inj hread))
  rcases exists_of_bind_error h with hcandidates | ⟨⟨candidates, source⟩, _, h⟩
  · exact absurd (Provider.failsWith_candidates client offline _ _ hcandidates) hkind.not_isForeign
  rcases exists_of_bind_error h with hresolve | ⟨versions, _, h⟩
  · -- the expression was read and a candidate was found, so what is left is that none matches
    right
    have hok := eq_ok_of_ofExcept hread
    rw [resolve_result_eq, hok] at hresolve
    split at hresolve
    next hempty =>
      rw [hempty, Expression.read_empty] at hok
      cases hok
    split at hresolve
    · cases hresolve
      rcases hkind with hkind | hkind
      · cases hkind
      · cases hkind
    simp only at hresolve
    split at hresolve
    · cases hresolve
      exact absurd rfl hkind.not_isForeign
    · split at hresolve
      · cases hresolve
        rfl
      · cases hresolve
  · cases h

namespace Configuration

variable {c : Configuration} {setting : Setting} {fault : Fault}

theorem runWith_of_rejection {client : Feed.Client} {host : Host}
    (h : (c.runWith setting client host).result = .error fault) (hkind : fault.IsRejection) :
    (c.built client host.desk).result = .error fault ∧
      (c.runWith setting client host).events = (c.built client host.desk).events := by
  cases hbuilt : (c.built client host.desk).result with
  | error first =>
    have hfirst : (Host.atDesk
        (SupportMatrix.build c.expression (some client.provider) c.offline) host).result =
          .error first := hbuilt
    rw [runWith, bind_apply_of_error hfirst] at h ⊢
    exact ⟨h, rfl⟩
  | ok matrix =>
    rw [runWith_of_built hbuilt] at h
    rcases exists_of_bind_error h with hpost | ⟨_, _, hdone⟩
    · exact absurd (Output.failsWith_post c matrix _ _ hpost) hkind.not_isForeign
    · cases hdone

/-- A run whose expression is rejected has shown nothing. -/
theorem rejection_of_run {host : Host} (hretries : 0 ≤ c.retries)
    (h : (c.run setting none host).result = .error fault) (hkind : fault.IsRejection) :
    (∀ event ∈ (c.run setting none host).events, event.IsHidden) ∧
      (Expression.read c.expression = .error fault ∨ fault = .noMatch c.expression) := by
  obtain ⟨client, hclient⟩ := @Feed.Client.exists_of_prepare c.clientSettings hretries host.desk
  have hprepare :
      (Host.atDesk (Feed.Client.prepare c.clientSettings) host).result = .ok client := by
    rw [Host.atDesk_apply, hclient]
  rw [run_none, bind_apply_of_ok hprepare, Host.atDesk_apply, hclient] at h ⊢
  obtain ⟨hbuilt, hevents⟩ := runWith_of_rejection h hkind
  refine ⟨fun event he => ?_, SupportMatrix.rejection_of_build hbuilt hkind⟩
  rcases List.mem_append.mp he with hmade | hlater
  · obtain rfl := List.mem_singleton.mp hmade
    exact .clientMade _
  · rw [hevents] at hlater
    exact (SupportMatrix.hidden_build c.expression client c.offline _).2 event hlater

end Configuration

end ReleaseLines
