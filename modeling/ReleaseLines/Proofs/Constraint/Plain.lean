import ReleaseLines.Proofs.Constraint.Selection

namespace ReleaseLines

/-- A part that is an operator, blanks and a version. -/
structure Comparison where
  operator : Operator
  blanks : List Char
  version : Spelling
  isBlank_of_mem : ∀ c ∈ blanks, Text.isBlank c = true

namespace Comparison

def clause (c : Comparison) : Clause :=
  .comparison c.operator c.blanks c.version c.isBlank_of_mem

/-- What a comparison is read as where no shorthand is counted out. -/
def constraint (c : Comparison) : Constraint := .ofLine c.operator c.version.line

theorem readChars_eq_ok_iff (c : Comparison) {found : Constraint} :
    Segment.readChars c.clause.chars = .ok found ↔ c.version.IsReadable ∧ found = c.constraint :=
  Segment.readChars_comparison_eq_ok_iff c.operator c.version c.isBlank_of_mem

theorem exists_of_readChars_eq_ok {segment : List Char} {found : Constraint}
    (h : Segment.readChars segment = .ok found) :
    ∃ c : Comparison, c.clause.chars = segment ∧ c.version.IsReadable ∧ found = c.constraint := by
  cases hscan : Segment.scan segment with
  | error flaw => simp [Segment.readChars, hscan] at h
  | ok scanned =>
    obtain ⟨operator, a, b⟩ := scanned
    obtain ⟨blanks, version, hblanks, _, _, rfl⟩ := Segment.exists_of_scan_eq_ok hscan
    let c : Comparison := ⟨operator, blanks, version, hblanks⟩
    exact ⟨c, rfl, c.readChars_eq_ok_iff.mp h⟩

end Comparison

theorem Spelling.read_text_eq_ok_iff {s : Spelling} :
    (∃ version, Version.read s.text = .ok version) ↔ s.IsReadable := by
  refine ⟨fun h => ?_, fun h => ⟨_, read_text h⟩⟩
  obtain ⟨version, h⟩ := h
  obtain ⟨others, hp⟩ := s.pieces_chars
  rw [Version.read, text, String.toList_ofList, s.trim_chars, hp] at h
  obtain ⟨_, hmajor, h⟩ := except_bind_eq_ok_iff.mp h
  obtain ⟨_, hminor, _⟩ := except_bind_eq_ok_iff.mp h
  exact ⟨(DigitRun.read_chars_eq_ok_iff.mp hmajor).1, (DigitRun.read_chars_eq_ok_iff.mp hminor).1⟩

namespace Expression

theorem mapM_readChars_eq_ok_iff {parts : List (List Char)} {found : List Constraint} :
    parts.mapM Segment.readChars = .ok found ↔
      ∃ comparisons : List Comparison, parts = comparisons.map (·.clause.chars) ∧
        (∀ c ∈ comparisons, c.version.IsReadable) ∧
        found = comparisons.map Comparison.constraint := by
  rw [mapM_eq_ok_iff]
  constructor
  · intro h
    induction h with
    | nil => exact ⟨[], rfl, by simp, rfl⟩
    | cons hread _ ih =>
      obtain ⟨c, rfl, hreadable, rfl⟩ := Comparison.exists_of_readChars_eq_ok hread
      obtain ⟨others, rfl, hothers, rfl⟩ := ih
      exact ⟨c :: others, rfl, List.forall_mem_cons.mpr ⟨hreadable, hothers⟩, rfl⟩
  · rintro ⟨comparisons, rfl, hreadable, rfl⟩
    rw [List.forall₂_map_left_iff, List.forall₂_map_right_iff]
    exact List.forall₂_same.mpr fun c hc => c.readChars_eq_ok_iff.mpr ⟨hreadable c hc, rfl⟩

/-- The expressions that are accepted as they stand, and what they are read as. -/
theorem readPlain_eq_ok_iff {expression : String} {found : List Constraint} :
    readPlain expression = .ok found ↔
      ∃ comparisons : List Comparison, comparisons ≠ [] ∧
        segments expression.toList = comparisons.map (·.clause.chars) ∧
        (∀ c ∈ comparisons, c.version.IsReadable) ∧
        found = comparisons.map Comparison.constraint := by
  have hempty : readPlain "" = .error .emptyExpression := rfl
  constructor
  · intro h
    have hne : expression ≠ "" := by
      rintro rfl
      rw [hempty] at h
      cases h
    rw [readPlain, if_neg (by simpa using hne), readSegments_eq] at h
    have hparts : segments expression.toList ≠ [] := by
      intro hnil
      rw [hnil] at h
      cases h
    rw [readFound_of_ne_nil hparts] at h
    obtain ⟨comparisons, hcomparisons, hreadable, hfound⟩ := mapM_readChars_eq_ok_iff.mp h
    exact ⟨comparisons, by rintro rfl; exact hparts hcomparisons, hcomparisons, hreadable, hfound⟩
  · rintro ⟨comparisons, hcomparisons, hparts, hreadable, hfound⟩
    have hne : expression ≠ "" := by
      rintro rfl
      rw [String.toList_empty, segments_nil] at hparts
      exact hcomparisons (List.map_eq_nil_iff.mp hparts.symm)
    rw [readPlain, if_neg (by simpa using hne), readSegments_eq, hparts,
      readFound_of_ne_nil (by simpa using hcomparisons)]
    exact mapM_readChars_eq_ok_iff.mpr ⟨comparisons, rfl, hreadable, hfound⟩

end Expression

end ReleaseLines
