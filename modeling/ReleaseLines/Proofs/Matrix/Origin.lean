import ReleaseLines.Proofs.Matrix.Build

namespace ReleaseLines

open Act

variable {σ : Type}

theorem resolve_eq_ok_iff {expression : String} {candidates versions : List String} {state : σ} :
    (resolve expression candidates state).result = .ok versions ↔
      ∃ found, Expression.read expression = .ok found ∧
        Constraint.select candidates found = .ok versions ∧ versions ≠ [] := by
  constructor
  · intro h
    unfold resolve at h
    split at h
    · cases h
    · split at h
      · cases h
      · obtain ⟨found, hfound, h⟩ := exists_of_result_bind h
        obtain ⟨_, _, h⟩ := exists_of_result_bind h
        obtain ⟨selected, hselected, h⟩ := exists_of_result_bind h
        split at h
        · cases h
        next hne =>
          obtain rfl := Except.ok.inj h
          exact ⟨found, eq_ok_of_ofExcept hfound, eq_ok_of_ofValue hselected, by simpa using hne⟩
  · rintro ⟨found, hfound, hselect, hne⟩
    have hcandidates : candidates ≠ [] := by
      rintro rfl
      exact hne (List.sublist_nil.mp (Constraint.select_sublist hselect))
    rw [resolve_result hfound hcandidates hselect, if_neg hne]

theorem SupportMatrix.build_eq_ok_iff {expression : String} {provider : Option (Provider σ)}
    {offline : Bool} {state : σ} {matrix : SupportMatrix} :
    (build expression provider offline state).result = .ok matrix ↔
      matrix.expression = expression ∧
      (candidatesOf provider offline state).result = .ok (matrix.candidates, matrix.source) ∧
      ∃ found, Expression.read expression = .ok found ∧
        Constraint.select matrix.candidates found = .ok matrix.versions ∧ matrix.versions ≠ [] := by
  have hstart {found : List Constraint} (h : Expression.read expression = .ok found) :
      (Act.ofExcept (Expression.read expression) state).state = state := by
    rw [h]
    rfl
  constructor
  · intro h
    obtain ⟨found, hfound, h⟩ := exists_of_result_bind h
    rw [hstart (eq_ok_of_ofExcept hfound)] at h
    obtain ⟨chosen, hchosen, h⟩ := exists_of_result_bind h
    obtain ⟨versions, hversions, h⟩ := exists_of_result_bind h
    obtain rfl := Except.ok.inj h
    exact ⟨rfl, hchosen, resolve_eq_ok_iff.mp hversions⟩
  · rintro ⟨rfl, hcandidates, found, hfound, hselect⟩
    have hversions (s : σ) :
        (resolve matrix.expression matrix.candidates s).result = .ok matrix.versions :=
      resolve_eq_ok_iff.mpr ⟨found, hfound, hselect⟩
    rw [build, result_bind (ofExcept_result hfound _), hstart hfound, result_bind hcandidates,
      result_bind (hversions _)]
    rfl

theorem SupportMatrix.versions_sublist_of_build {expression : String}
    {provider : Option (Provider σ)} {offline : Bool} {state : σ} {matrix : SupportMatrix}
    (h : (build expression provider offline state).result = .ok matrix) :
    matrix.versions.Sublist matrix.candidates := by
  obtain ⟨_, _, _, _, hselect, _⟩ := build_eq_ok_iff.mp h
  exact Constraint.select_sublist hselect

namespace Provider

/-- Candidates are either the supported lines in order, or the built-in ones where no supported line
is known. -/
theorem candidates_cases {provider : Provider σ} {state : σ} {candidates : List String}
    {source : String}
    (hfallback : provider.fallback = Pure.pure Feed.fallbackLines)
    (h : (provider.candidates false state).result = .ok (candidates, source)) :
    (∃ lines, (provider.supported state).result = .ok lines ∧ lines ≠ [] ∧
        sortLines lines = .ok candidates ∧ source = SupportMatrix.feedSource) ∨
      (∀ lines, (provider.supported state).result = .ok lines → lines = []) ∧
        candidates = Feed.fallbackLines ∧ source = SupportMatrix.fallbackSource := by
  cases hsupported : (provider.supported state).result with
  | error fault =>
    cases hkind : fault.isA .general with
    | true =>
      rw [candidates_of_error hfallback hsupported hkind] at h
      obtain ⟨rfl, rfl⟩ := Prod.mk.inj (Except.ok.inj h)
      exact .inr ⟨nofun, rfl, rfl⟩
    | false =>
      rw [candidates_of_escaped hsupported hkind] at h
      cases h
  | ok lines =>
    by_cases hne : lines = []
    · subst hne
      rw [candidates_of_nil hfallback hsupported] at h
      obtain ⟨rfl, rfl⟩ := Prod.mk.inj (Except.ok.inj h)
      exact .inr ⟨fun lines hlines => (Except.ok.inj hlines).symm, rfl, rfl⟩
    · rw [candidates_of_lines hne hsupported, sortedFrom_eq_ok_iff] at h
      exact .inl ⟨lines, rfl, hne, h.1, h.2⟩

end Provider

namespace Feed

/-- Candidates are the lines that the feed supports, all of them and no others, or the built-in ones
where the feed is not known to support any. -/
theorem origin_of_candidates {client : Client} {desk : Desk} {candidates : List String}
    {source : String}
    (h : (client.provider.candidates false desk).result = .ok (candidates, source)) :
    (∃ catalog, (client.fetch desk).result = .ok catalog ∧
        (∃ cycle, catalog.Supports (client.fetch desk).state.today cycle) ∧
        source = SupportMatrix.feedSource ∧ InOrder candidates ∧
        ∀ line, line ∈ candidates ↔ catalog.Supports (client.fetch desk).state.today line) ∨
      (∀ catalog, (client.fetch desk).result = .ok catalog →
          ¬∃ cycle, catalog.Supports (client.fetch desk).state.today cycle) ∧
        source = SupportMatrix.fallbackSource ∧ candidates = fallbackLines := by
  rcases client.provider.candidates_cases rfl h with
    ⟨lines, hlines, hne, hsorted, hsource⟩ | ⟨hnone, hlines, hsource⟩
  · obtain ⟨catalog, hfetch, hlive⟩ := exists_of_result_bind hlines
    obtain rfl := Except.ok.inj (hlines.symm.trans (supported_result hfetch oldestLine))
    have hmem := mem_liveCycles_iff catalog (client.fetch desk).state.today
    obtain ⟨cycle, rest, hcons⟩ := List.exists_cons_of_ne_nil hne
    have hcycle := (hmem cycle).mp (by simp [hcons])
    refine .inl ⟨catalog, hfetch, ⟨cycle, hcycle⟩, hsource, inOrder_of_sortLines hsorted, ?_⟩
    intro line
    exact (mem_sortLines hsorted line).trans (hmem line)
  · refine .inr ⟨fun catalog hfetch => ?_, hsource, hlines⟩
    rintro ⟨cycle, hcycle⟩
    have hmem := (mem_liveCycles_iff catalog (client.fetch desk).state.today cycle).mpr hcycle
    rw [hnone _ (supported_result hfetch oldestLine)] at hmem
    cases hmem

/-- A matrix is drawn from the lines that the feed supports, all of them and no others, or from the
built-in ones where the feed is not known to support any. -/
theorem origin_of_build {client : Client} {desk : Desk} {expression : String}
    {matrix : SupportMatrix}
    (h : (SupportMatrix.build expression (some client.provider) false desk).result = .ok matrix) :
    (∃ catalog, (client.fetch desk).result = .ok catalog ∧
        (∃ cycle, catalog.Supports (client.fetch desk).state.today cycle) ∧
        matrix.source = SupportMatrix.feedSource ∧
        ∀ line, line ∈ matrix.candidates ↔
          catalog.Supports (client.fetch desk).state.today line) ∨
      (∀ catalog, (client.fetch desk).result = .ok catalog →
          ¬∃ cycle, catalog.Supports (client.fetch desk).state.today cycle) ∧
        matrix.source = SupportMatrix.fallbackSource ∧ matrix.candidates = fallbackLines := by
  obtain ⟨_, hcandidates, _⟩ := SupportMatrix.build_eq_ok_iff.mp h
  rcases origin_of_candidates hcandidates with
    ⟨catalog, hfetch, hlisted, hsource, _, hlines⟩ | hbuiltIn
  · exact .inl ⟨catalog, hfetch, hlisted, hsource, hlines⟩
  · exact .inr hbuiltIn

/-- A desk that holds no catalog yet and is handed one payload. -/
def Desk.publishing (items : List Json) : Desk :=
  ⟨none, .epoch, false, [.answer 200 none (.payload (.arr items))]⟩

theorem read_from_oldestLine : Expression.read ">=3.9" = .ok [⟨.ge, oldestLine⟩] := by
  have hfits : (Clause.written .ge (toLex (3, 9))).Fits :=
    Clause.fits_of_short fun run h => h.length_le.trans_lt (by with_unfolding_all decide)
  have htext : (Constraint.ofLine .ge (toLex (3, 9))).text = ">=3.9" := by with_unfolding_all decide
  have hfound : (Clause.written .ge (toLex (3, 9))).constraints = [⟨.ge, oldestLine⟩] := by
    with_unfolding_all decide
  rw [← htext, Expression.read_text_ofLine hfits, hfound]

theorem build_from_oldestLine {client : Client} {desk : Desk} {lines : List String}
    {source : String}
    (hcandidates : (SupportMatrix.candidatesOf (some client.provider) false desk).result =
      .ok (lines, source))
    (hselect : Constraint.select lines [⟨.ge, oldestLine⟩] = .ok lines) (hne : lines ≠ []) :
    (SupportMatrix.build ">=3.9" (some client.provider) false desk).result =
      .ok ⟨lines, ">=3.9", source, lines⟩ :=
  SupportMatrix.build_eq_ok_iff.mpr ⟨rfl, hcandidates, _, read_from_oldestLine, hselect, hne⟩

end Feed

end ReleaseLines
