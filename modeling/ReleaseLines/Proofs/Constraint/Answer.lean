import ReleaseLines.Proofs.Constraint.Overlong

namespace ReleaseLines.Expression

/-- What the reading of an expression should come to: constraints, one at least, or what is wrong
with the expression. -/
def IsAnswer : Except Fault (List Constraint) → Prop
  | .ok found => found ≠ []
  | .error fault => fault = .emptyExpression ∨ fault = .noConstraintsFound ∨
      ∃ segment reason, fault = .malformedConstraint segment reason

/-- A part with numbers that are too long is come upon: one that is counted out, or one with only
good parts before it. -/
def IsOverlong (expression : String) : Prop :=
  ∃ (before : List (List Char)) (clause : Clause) (after : List (List Char)),
    segments expression.toList = before ++ clause.chars :: after ∧ ¬clause.Fits ∧
    (clause.isCountedOut = true ∨
      ∀ part ∈ before, ∃ good : Clause, good.chars = part ∧ good.Fits)

theorem not_isAnswer_badValue (problem : BadValue) : ¬IsAnswer (.error (.badValue problem)) := by
  rintro (h | h | ⟨_, _, h⟩) <;> cases h

theorem exists_of_readPart_eq_ok {part cs : List Char} {found : List Constraint}
    (hpart : part ∈ segments cs) (h : readPart part = .ok found) :
    ∃ clause : Clause, clause.chars = part ∧ clause.Fits := by
  by_cases hclause : ∃ clause : Clause, clause.chars = part
  · obtain ⟨clause, rfl⟩ := hclause
    exact ⟨clause, rfl, (clause.readPart_chars_eq_ok_iff.mp h).1⟩
  · obtain ⟨flaw, _, hflaw⟩ := readPart_of_not_clause hpart fun clause hc => hclause ⟨clause, hc⟩
    rw [hflaw] at h
    cases h

/-- The normalization refuses an expression for the length of a part that is counted out. -/
theorem exists_of_normalize_eq_error {cs : List Char} {problem : BadValue}
    (h : (segments cs).mapM Token.normalizeChars = .error problem) :
    problem.isAboutLength = true ∧ ∃ (before : List (List Char)) (clause : Clause)
      (after : List (List Char)), segments cs = before ++ clause.chars :: after ∧ ¬clause.Fits ∧
        clause.isCountedOut = true := by
  obtain ⟨before, part, after, hparts, _, herror⟩ := exists_of_mapM_eq_error h
  have hpart : part ∈ segments cs := by simp [hparts]
  by_cases hclause : ∃ clause : Clause, clause.chars = part
  · obtain ⟨clause, rfl⟩ := hclause
    have hread : readPart clause.chars = .error (.badValue problem) := by rw [readPart, herror]
    obtain ⟨_, hlength, hproblem⟩ := Clause.exists_of_readPart_eq_error hread
    obtain rfl := Fault.badValue.inj hproblem
    have hrefused : ¬(clause.isCountedOut = true → clause.Fits) := by
      rw [← clause.exists_normalizeChars_iff, herror]
      rintro ⟨_, h⟩
      cases h
    obtain ⟨hcounted, hfits⟩ := Classical.not_imp.mp hrefused
    exact ⟨hlength, before, clause, after, hparts, hfits, hcounted⟩
  · rw [Token.normalizeChars_of_not_clause (trim_of_mem_segments hpart)
      fun clause hc => hclause ⟨clause, hc⟩] at herror
    cases herror

theorem read_of_normalize_eq_error {expression : String} {problem : BadValue}
    (h : (segments expression.toList).mapM Token.normalizeChars = .error problem) :
    read expression = .error (.badValue problem) := by
  have hne : expression ≠ "" := by
    rintro rfl
    rw [String.toList_empty, segments_nil] at h
    cases h
  have hkey := map_segments_normalizeChars expression.toList
  rw [h] at hkey
  rw [read, if_neg (by simpa using hne)]
  cases hplain : normalizeChars expression.toList with
  | error other =>
    rw [hplain] at hkey
    obtain rfl := Except.error.inj hkey
    rfl
  | ok plain =>
    rw [hplain] at hkey
    cases hkey

/-- What is normalized is read part by part. -/
theorem read_of_normalize_eq_ok {expression : String} {plains : List (List Char)}
    (hparts : segments expression.toList ≠ [])
    (h : (segments expression.toList).mapM Token.normalizeChars = .ok plains) :
    read expression = ((segments expression.toList).mapM readPart).map List.flatten := by
  have hne : expression ≠ "" := by
    rintro rfl
    exact hparts segments_nil
  refine read_eq_mapM_readPart hne h (flatMap_segments_ne_nil h fun hnil => ?_)
  obtain ⟨results, hresults, hflat⟩ := except_map_eq_ok_iff.mp hnil
  obtain ⟨clauses, hclauses, _, rfl⟩ := exists_clauses_of_mapM_readPart (fun _ hp => hp) hresults
  obtain ⟨clause, rest, rfl⟩ := List.exists_cons_of_ne_nil (l := clauses) (by
    rintro rfl
    exact hparts hclauses)
  exact clause.constraints_ne_nil (List.append_eq_nil_iff.mp hflat).1

theorem not_isOverlong_of_good {expression : String}
    (h : ∀ part ∈ segments expression.toList, ∃ good : Clause, good.chars = part ∧ good.Fits) :
    ¬IsOverlong expression := by
  rintro ⟨before, clause, after, hparts, hfits, _⟩
  obtain ⟨good, hgood, hshort⟩ := h clause.chars (by simp [hparts])
  exact hfits ((Clause.fits_congr hgood).mp hshort)

/-- A part that is none is come upon before any that is too long. -/
theorem not_isOverlong_of_not_clause {expression : String} {before after : List (List Char)}
    {bad : List Char} (hparts : segments expression.toList = before ++ bad :: after)
    (hbad : ∀ clause : Clause, clause.chars ≠ bad)
    (hbefore : ∀ part ∈ before, ∃ good : Clause, good.chars = part ∧ good.Fits)
    (hcounted : ∀ clause : Clause, clause.chars ∈ segments expression.toList →
      clause.isCountedOut = true → clause.Fits) : ¬IsOverlong expression := by
  rintro ⟨before', clause, after', hparts', hfits, hcome⟩
  have hgood : ∀ part ∈ before', ∃ good : Clause, good.chars = part ∧ good.Fits :=
    hcome.resolve_left fun h => hfits (hcounted clause (by simp [hparts']) h)
  rcases List.append_eq_append_iff.mp (hparts.symm.trans hparts') with
    ⟨between, rfl, heq⟩ | ⟨between, rfl, heq⟩
  · cases between with
    | nil => exact hbad clause (List.cons.inj heq).1.symm
    | cons part rest =>
      obtain rfl := (List.cons.inj heq).1
      obtain ⟨good, hchars, _⟩ := hgood bad (by simp)
      exact hbad good hchars
  · cases between with
    | nil => exact hbad clause (List.cons.inj heq).1
    | cons part rest =>
      obtain rfl := (List.cons.inj heq).1
      obtain ⟨good, hchars, hshort⟩ := hbefore clause.chars (by simp)
      exact hfits ((Clause.fits_congr hchars).mp hshort)

theorem isAnswer_of_mapM_readPart {expression : String} {plains : List (List Char)}
    {results : List (List Constraint)} (hparts : segments expression.toList ≠ [])
    (hnormal : (segments expression.toList).mapM Token.normalizeChars = .ok plains)
    (h : (segments expression.toList).mapM readPart = .ok results) :
    IsAnswer (read expression) ∧ ¬IsOverlong expression := by
  obtain ⟨clauses, hclauses, hfits, rfl⟩ := exists_clauses_of_mapM_readPart (fun _ hp => hp) h
  obtain ⟨clause, rest, rfl⟩ := List.exists_cons_of_ne_nil (l := clauses) (by
    rintro rfl
    exact hparts hclauses)
  constructor
  · rw [read_of_normalize_eq_ok hparts hnormal, h]
    exact fun hnil => clause.constraints_ne_nil (List.append_eq_nil_iff.mp hnil).1
  · refine not_isOverlong_of_good fun part hpart => ?_
    rw [hclauses] at hpart
    obtain ⟨good, hgood, rfl⟩ := List.mem_map.mp hpart
    exact ⟨good, rfl, hfits good hgood⟩

/-- The first part that is not read decides whether an expression is answered. -/
theorem cases_of_mapM_readPart_eq_error {expression : String} {plains : List (List Char)}
    {fault : Fault} (hnormal : (segments expression.toList).mapM Token.normalizeChars = .ok plains)
    (h : (segments expression.toList).mapM readPart = .error fault) :
    (IsAnswer (.error fault) ∧ ¬IsOverlong expression) ∨
      (IsOverlong expression ∧ ∃ problem, problem.isAboutLength = true ∧
        fault = .badValue problem) := by
  obtain ⟨before, part, after, hparts, hbefore, herror⟩ := exists_of_mapM_eq_error h
  have hpart : part ∈ segments expression.toList := by simp [hparts]
  have hgood : ∀ other ∈ before, ∃ good : Clause, good.chars = other ∧ good.Fits := by
    intro other ho
    obtain ⟨found, hfound⟩ := hbefore other ho
    have hother : other ∈ segments expression.toList := by simp [hparts, ho]
    exact exists_of_readPart_eq_ok hother hfound
  by_cases hclause : ∃ clause : Clause, clause.chars = part
  · obtain ⟨clause, rfl⟩ := hclause
    have hfits : ¬clause.Fits := fun hfits => by
      rw [clause.readPart_chars_eq_ok_iff.mpr ⟨hfits, rfl⟩] at herror
      cases herror
    exact .inr ⟨⟨before, clause, after, hparts, hfits, .inr hgood⟩,
      Clause.exists_of_readPart_eq_error herror⟩
  · have hbad : ∀ clause : Clause, clause.chars ≠ part := fun clause hc => hclause ⟨clause, hc⟩
    obtain ⟨flaw, _, hflaw⟩ := readPart_of_not_clause hpart hbad
    obtain rfl := Except.error.inj (herror.symm.trans hflaw)
    refine .inl ⟨.inr (.inr ⟨_, _, rfl⟩), not_isOverlong_of_not_clause hparts hbad hgood ?_⟩
    exact fun clause hclause => clause.exists_normalizeChars_iff.mp
      (exists_eq_ok_of_mem hnormal hclause)

/-- Reading an expression comes to an answer or is given up for the length of a number. -/
theorem read_cases (expression : String) :
    (IsAnswer (read expression) ∧ ¬IsOverlong expression) ∨
      (IsOverlong expression ∧ ∃ problem, problem.isAboutLength = true ∧
        read expression = .error (.badValue problem)) := by
  cases hnormal : (segments expression.toList).mapM Token.normalizeChars with
  | error problem =>
    obtain ⟨hlength, before, clause, after, hparts, hfits, hcounted⟩ :=
      exists_of_normalize_eq_error hnormal
    exact .inr ⟨⟨before, clause, after, hparts, hfits, .inl hcounted⟩, problem, hlength,
      read_of_normalize_eq_error hnormal⟩
  | ok plains =>
    by_cases hparts : segments expression.toList = []
    · refine .inl ⟨?_, not_isOverlong_of_good (by simp [hparts])⟩
      by_cases hne : expression = ""
      · rw [hne, read_empty]
        exact .inl rfl
      · obtain rfl : plains = [] := by
          rw [hparts] at hnormal
          exact (Except.ok.inj hnormal).symm
        rw [read_of_normalized hne hnormal]
        exact Or.inr (.inl rfl)
    · cases hresults : (segments expression.toList).mapM readPart with
      | ok results => exact .inl (isAnswer_of_mapM_readPart hparts hnormal hresults)
      | error fault =>
        have hread : read expression = .error fault := by
          rw [read_of_normalize_eq_ok hparts hnormal, hresults]
          rfl
        rw [hread]
        simpa using cases_of_mapM_readPart_eq_error hnormal hresults

end ReleaseLines.Expression
