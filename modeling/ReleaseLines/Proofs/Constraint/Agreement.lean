import ReleaseLines.Proofs.Constraint.Answer

namespace ReleaseLines

namespace Comparison

/-- A comparison that is read as it stands admits what its text says. -/
theorem allSatisfiedBy_constraint {comparisons : List Comparison} {candidate : Spelling}
    (hreadable : ∀ c ∈ comparisons, c.version.IsReadable) (hcandidate : candidate.IsReadable) :
    Constraint.allSatisfiedBy candidate.text (comparisons.map constraint) =
      .ok (decide (∀ c ∈ comparisons, c.clause.Admits candidate.line)) := by
  have hsatisfied : ∀ c ∈ comparisons, c.constraint.isSatisfiedBy candidate.text =
      .ok (decide (c.clause.Admits candidate.line)) := fun c hc =>
    Constraint.isSatisfiedBy_ofLine (hreadable c hc).ofLine_line hcandidate
  rw [Constraint.allSatisfiedBy_map _ hsatisfied, Except.ok.injEq, Bool.eq_iff_iff,
    List.all_eq_true, decide_eq_true_iff]
  simp only [decide_eq_true_iff]

end Comparison

namespace Expression

theorem exists_of_read_eq_error {expression : String} {clauses : List Clause} {fault : Fault}
    (hne : clauses ≠ []) (hparts : segments expression.toList = clauses.map Clause.chars)
    (h : read expression = .error fault) :
    ∃ problem, problem.isAboutLength = true ∧ fault = .badValue problem := by
  cases hnormal : (segments expression.toList).mapM Token.normalizeChars with
  | error problem =>
    obtain ⟨hlength, _⟩ := exists_of_normalize_eq_error hnormal
    rw [read_of_normalize_eq_error hnormal] at h
    exact ⟨problem, hlength, (Except.error.inj h).symm⟩
  | ok plains =>
    rw [read_of_normalize_eq_ok (by simpa [hparts] using hne) hnormal] at h
    cases hresults : (segments expression.toList).mapM readPart with
    | ok results =>
      rw [hresults] at h
      cases h
    | error other =>
      rw [hresults] at h
      obtain rfl := Except.error.inj h
      obtain ⟨before, part, after, hsplit, _, herror⟩ := exists_of_mapM_eq_error hresults
      have hpart : part ∈ clauses.map Clause.chars := by simp [← hparts, hsplit]
      obtain ⟨clause, _, rfl⟩ := List.mem_map.mp hpart
      exact Clause.exists_of_readPart_eq_error herror

/-- An expression that is accepted as it stands is refused at most for the length of a number when
its shorthands are counted out, and means the same otherwise. -/
theorem select_of_readPlain {expression : String} {found : List Constraint}
    (h : readPlain expression = .ok found) :
    (∀ fault, read expression = .error fault → fault.isA .constraint = false) ∧
    ∀ normalized, read expression = .ok normalized →
      (∀ candidate : Spelling, (∃ version, Version.read candidate.text = .ok version) →
        ∃ satisfied, Constraint.allSatisfiedBy candidate.text found = .ok satisfied ∧
          Constraint.allSatisfiedBy candidate.text normalized = .ok satisfied) ∧
      ∀ candidates : List Spelling,
        (∀ candidate ∈ candidates, ∃ version, Version.read candidate.text = .ok version) →
        ∃ selected, Constraint.select (candidates.map Spelling.text) found = .ok selected ∧
          Constraint.select (candidates.map Spelling.text) normalized = .ok selected := by
  obtain ⟨comparisons, hne, hparts, hreadable, rfl⟩ := readPlain_eq_ok_iff.mp h
  have hclauses : segments expression.toList =
      (comparisons.map Comparison.clause).map Clause.chars := by rw [hparts, List.map_map]; rfl
  refine ⟨fun fault hfault => ?_, fun normalized hnormalized => ?_⟩
  · obtain ⟨_, _, rfl⟩ := exists_of_read_eq_error (by simpa using hne) hclauses hfault
    rfl
  · obtain ⟨others, _, hothers, hfits, rfl⟩ := read_eq_ok_iff.mp hnormalized
    obtain ⟨hfits, hconstraints⟩ := fits_of_map_chars_eq (hclauses.symm.trans hothers) hfits
    rw [hconstraints]
    have agree (candidate : Spelling) (hcandidate : candidate.IsReadable) :
        Constraint.allSatisfiedBy candidate.text
            ((comparisons.map Comparison.clause).flatMap Clause.constraints) =
          .ok (decide (∀ c ∈ comparisons, c.clause.Admits candidate.line)) := by
      rw [Constraint.allSatisfiedBy_constraints hfits hcandidate]
      simp only [List.forall_mem_map]
    constructor
    · intro candidate hcandidate
      have hcandidate := Spelling.read_text_eq_ok_iff.mp hcandidate
      exact ⟨_, Comparison.allSatisfiedBy_constraint hreadable hcandidate, agree _ hcandidate⟩
    · intro candidates hcandidates
      have hcandidates := fun candidate hc =>
        Spelling.read_text_eq_ok_iff.mp (hcandidates candidate hc)
      exact ⟨_, Constraint.select_map Spelling.text fun candidate hc =>
          Comparison.allSatisfiedBy_constraint hreadable (hcandidates candidate hc),
        Constraint.select_map Spelling.text fun candidate hc =>
          agree candidate (hcandidates candidate hc)⟩

theorem select_of_shorthands :
    ∃ selected,
      Constraint.select ["3.9", "3.10.4", "4.0"] [⟨.compatible, "3.9"⟩, ⟨.caret, "3.8"⟩] =
        .ok selected ∧
      Constraint.select ["3.9", "3.10.4", "4.0"]
        [⟨.ge, "3.9"⟩, ⟨.lt, "3.10"⟩, ⟨.ge, "3.8"⟩, ⟨.lt, "4.0"⟩] = .ok selected := by
  let compatible : Comparison :=
    ⟨.compatible, [], ⟨.ofNat 3, .ofNat 9, some (.ofNat 2)⟩, fun _ => List.not_mem_nil.elim⟩
  let caret : Comparison :=
    ⟨.caret, [' '], .ofLine (toLex (3, 8)), fun _ hc => List.mem_singleton.mp hc ▸ rfl⟩
  have hplain : readPlain "~=3.9.2, ^ 3.8" = .ok [⟨.compatible, "3.9"⟩, ⟨.caret, "3.8"⟩] :=
    readPlain_eq_ok_iff.mpr ⟨[compatible, caret], by simp, by with_unfolding_all decide,
      by unfold Spelling.IsReadable; with_unfolding_all decide, by with_unfolding_all decide⟩
  have hfits (c : Comparison) (hc : c ∈ [compatible, caret]) : c.clause.Fits := by
    rcases List.mem_pair.mp hc with rfl | rfl
    · exact Clause.fits_of_short fun run h => h.length_le.trans_lt (by with_unfolding_all decide)
    · exact Clause.fits_of_short fun run h => h.length_le.trans_lt (by with_unfolding_all decide)
  have hread : read "~=3.9.2, ^ 3.8" =
      .ok [⟨.ge, "3.9"⟩, ⟨.lt, "3.10"⟩, ⟨.ge, "3.8"⟩, ⟨.lt, "4.0"⟩] :=
    read_eq_ok_iff.mpr ⟨[compatible, caret].map Comparison.clause, by simp,
      by with_unfolding_all decide, List.forall_mem_map.mpr hfits, by with_unfolding_all decide⟩
  let candidates : List Spelling :=
    [.ofLine (toLex (3, 9)), ⟨.ofNat 3, .ofNat 10, some (.ofNat 4)⟩, .ofLine (toLex (4, 0))]
  have hreadable : ∀ candidate ∈ candidates, candidate.IsReadable := by
    unfold Spelling.IsReadable
    with_unfolding_all decide
  have htexts : candidates.map Spelling.text = ["3.9", "3.10.4", "4.0"] := by
    with_unfolding_all decide
  rw [← htexts]
  exact ((select_of_readPlain hplain).2 _ hread).2 candidates fun candidate hc =>
    Spelling.read_text_eq_ok_iff.mpr (hreadable candidate hc)

end Expression

end ReleaseLines
