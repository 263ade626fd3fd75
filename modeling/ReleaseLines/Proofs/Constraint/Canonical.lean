import ReleaseLines.Proofs.Constraint.Plain
import ReleaseLines.Proofs.Constraint.Primitive
import ReleaseLines.Proofs.Constraint.Settled

namespace ReleaseLines

namespace Spelling

/-- Two numbers without superfluous zeros, and no patch. -/
structure IsCanonical (s : Spelling) : Prop where
  major : s.major.IsShortest
  minor : s.minor.IsShortest
  patch : s.patch = none

theorem isCanonical_ofLine (line : ℕ ×ₗ ℕ) : (ofLine line).IsCanonical :=
  ⟨DigitRun.isShortest_ofNat _, DigitRun.isShortest_ofNat _, rfl⟩

theorem IsCanonical.text_ofLine {s : Spelling} (h : s.IsCanonical) :
    (ofLine s.line).text = s.text := by
  have hmajor : (ofLine s.line).major.chars = s.major.chars := h.major.chars_ofNat_value
  have hminor : (ofLine s.line).minor.chars = s.minor.chars := h.minor.chars_ofNat_value
  have hpatch : (ofLine s.line).patch = none := rfl
  rw [text, text, chars, chars, hmajor, hminor, hpatch, h.patch]

end Spelling

namespace Constraint

/-- The bound is written in the shortest way, and its numbers are not too long to be read. -/
def IsCanonical (c : Constraint) : Prop :=
  ∃ s : Spelling, s.IsCanonical ∧ s.IsReadable ∧ c.version = s.text

theorem isCanonical_ofLine (operator : Operator) {line : ℕ ×ₗ ℕ}
    (h : (Spelling.ofLine line).IsReadable) : (ofLine operator line).IsCanonical :=
  ⟨Spelling.ofLine line, Spelling.isCanonical_ofLine line, h, rfl⟩

theorem IsCanonical.exists_eq_ofLine {c : Constraint} (h : c.IsCanonical) :
    ∃ line, (Spelling.ofLine line).IsReadable ∧ c = ofLine c.operator line := by
  obtain ⟨s, hcanonical, hreadable, hversion⟩ := h
  refine ⟨s.line, hreadable.ofLine_line, ?_⟩
  rw [ofLine, hcanonical.text_ofLine, ← hversion]

theorem exists_bounds_of_isCanonical {found : List Constraint} (h : ∀ c ∈ found, c.IsCanonical) :
    ∃ bounds : List (Operator × (ℕ ×ₗ ℕ)),
      found = bounds.map (fun bound => ofLine bound.1 bound.2) ∧
      ∀ bound ∈ bounds, (Spelling.ofLine bound.2).IsReadable := by
  induction found with
  | nil => exact ⟨[], rfl, by simp⟩
  | cons c rest ih =>
    obtain ⟨line, hline, hc⟩ := (h c (by simp)).exists_eq_ofLine
    obtain ⟨bounds, hbounds, hreadable⟩ := ih fun other ho => h other (List.mem_cons_of_mem c ho)
    refine ⟨(c.operator, line) :: bounds, ?_, List.forall_mem_cons.mpr ⟨hline, hreadable⟩⟩
    rw [List.map_cons, ← hbounds, ← hc]

/-- A constraint says what its segment says: it has the operator of the segment, and its bound is
the shortest spelling of the line that the version of the segment names. -/
structure IsReadFrom (c : Constraint) (segment : List Char) : Prop where
  canonical : c.IsCanonical
  spelled : ∃ comparison : Comparison, comparison.clause.chars = segment
  agrees : ∀ comparison : Comparison, comparison.clause.chars = segment →
    c.operator = comparison.operator ∧
      ∃ line, Version.read c.version = .ok line ∧ Version.read comparison.version.text = .ok line

theorem isReadFrom_of_readChars {segment : List Char} {c : Constraint}
    (h : Segment.readChars segment = .ok c) : c.IsReadFrom segment := by
  obtain ⟨comparison, hchars, hreadable, hc⟩ := Comparison.exists_of_readChars_eq_ok h
  refine ⟨?_, ⟨comparison, hchars⟩, ?_⟩
  · rw [hc]
    exact isCanonical_ofLine comparison.operator hreadable.ofLine_line
  · intro other hother
    rw [← hother] at h
    obtain ⟨hshort, hsame⟩ := other.readChars_eq_ok_iff.mp h
    have hbound : Version.read (Spelling.ofLine other.version.line).text =
        .ok (Version.ofPair (Spelling.ofLine other.version.line).line) :=
      Spelling.read_text hshort.ofLine_line
    rw [Spelling.line_ofLine] at hbound
    rw [hsame]
    exact ⟨rfl, _, hbound, Spelling.read_text hshort⟩

end Constraint

namespace Comparison

theorem isBlank_of_mem_nil : ∀ c ∈ ([] : List Char), Text.isBlank c = true := List.forall_mem_nil _

/-- The comparison with a line in its shortest spelling. -/
def written (operator : Operator) (line : ℕ ×ₗ ℕ) : Comparison :=
  ⟨operator, [], .ofLine line, isBlank_of_mem_nil⟩

theorem constraint_written (operator : Operator) (line : ℕ ×ₗ ℕ) :
    (written operator line).constraint = .ofLine operator line := by
  have hline : (written operator line).version.line = line := Spelling.line_ofLine line
  rw [constraint, hline]
  rfl

end Comparison

namespace Expression

theorem isReadFrom_of_readPlain {expression : String} {found : List Constraint}
    (h : readPlain expression = .ok found) :
    List.Forall₂ (fun segment c => c.IsReadFrom segment) (segments expression.toList) found := by
  obtain ⟨comparisons, _, hparts, hreadable, hfound⟩ := readPlain_eq_ok_iff.mp h
  rw [hparts, hfound, List.forall₂_map_left_iff, List.forall₂_map_right_iff, List.forall₂_same]
  intro comparison hcomparison
  apply Constraint.isReadFrom_of_readChars
  exact comparison.readChars_eq_ok_iff.mpr ⟨hreadable comparison hcomparison, rfl⟩

theorem isCanonical_of_read {expression : String} {found : List Constraint}
    (h : read expression = .ok found) {c : Constraint} (hc : c ∈ found) : c.IsCanonical := by
  obtain ⟨clauses, _, hparts, _⟩ := read_eq_ok_iff.mp h
  obtain ⟨hfound, _, hreadable⟩ := exists_bounds_of_read h hparts
  rw [hfound] at hc
  obtain ⟨bound, hbound, rfl⟩ := List.mem_map.mp hc
  exact Constraint.isCanonical_ofLine bound.1 (hreadable bound hbound)

/-- Constraints of any sort are read back from their texts where no shorthand is counted out. -/
theorem readPlain_joined {bounds : List (Operator × (ℕ ×ₗ ℕ))} (hne : bounds ≠ [])
    (hreadable : ∀ bound ∈ bounds, (Spelling.ofLine bound.2).IsReadable) :
    readPlain (joined (bounds.map fun bound => .ofLine bound.1 bound.2)) =
      .ok (bounds.map fun bound => .ofLine bound.1 bound.2) := by
  apply readPlain_eq_ok_iff.mpr
  refine ⟨bounds.map fun bound => .written bound.1 bound.2, by simpa using hne, ?_, ?_, ?_⟩
  · rw [segments_joined, List.map_map, List.map_map]
    rfl
  · intro comparison hcomparison
    obtain ⟨bound, hbound, rfl⟩ := List.mem_map.mp hcomparison
    exact hreadable bound hbound
  · rw [List.map_map]
    apply List.map_congr_left
    intro bound _
    exact (Comparison.constraint_written bound.1 bound.2).symm

theorem normalize_joined {bounds : List (Operator × (ℕ ×ₗ ℕ))} (hne : bounds ≠ [])
    (hprimitive : ∀ bound ∈ bounds, bound.1.isPrimitive = true) :
    normalize (joined (bounds.map fun bound => .ofLine bound.1 bound.2)) =
      .ok (joined (bounds.map fun bound => .ofLine bound.1 bound.2)) := by
  have hsettled : Token.Settled (joined (bounds.map fun bound => .ofLine bound.1 bound.2)).toList := by
    rw [toList_joined]
    apply Token.settled_intercalate (by simpa using hne)
    intro text htext
    obtain ⟨bound, hbound, rfl⟩ := List.mem_map.mp htext
    exact Token.settled_bareChars bound.1 (.ofLine bound.2) (hprimitive bound hbound)
  rw [normalize, normalizeChars_of_settled hsettled]
  exact congrArg Except.ok String.ofList_toList

/-- What is read is spelled in the one shortest way and names the line that was written. Constraints
so spelled are read back from their texts as they are where nothing is counted out, and in any case
where they are primitive, which leaves their text as it is. -/
theorem canonical_reads_back :
    (∀ (segment : String) (c : Constraint), Segment.read segment = .ok c →
      c.IsReadFrom segment.toList) ∧
    (∀ (expression : String) (found : List Constraint), readPlain expression = .ok found →
      List.Forall₂ (fun segment c => c.IsReadFrom segment) (segments expression.toList) found) ∧
    (∀ (expression : String) (found : List Constraint), read expression = .ok found →
      ∀ c ∈ found, c.IsCanonical) ∧
    ∀ found : List Constraint, found ≠ [] → (∀ c ∈ found, c.IsCanonical) →
      readPlain (joined found) = .ok found ∧
      ((∀ c ∈ found, c.operator.isPrimitive = true) →
        normalize (joined found) = .ok (joined found) ∧ read (joined found) = .ok found) := by
  refine ⟨?_, ?_, ?_, ?_⟩
  · intro segment c h
    exact Constraint.isReadFrom_of_readChars h
  · intro expression found h
    exact isReadFrom_of_readPlain h
  · intro expression found h c hc
    exact isCanonical_of_read h hc
  · intro found hne hcanonical
    obtain ⟨bounds, rfl, hreadable⟩ := Constraint.exists_bounds_of_isCanonical hcanonical
    have hbounds : bounds ≠ [] := mt List.map_eq_nil_iff.mpr hne
    refine ⟨readPlain_joined hbounds hreadable, ?_⟩
    intro hprimitive
    rw [List.forall_mem_map] at hprimitive
    exact ⟨normalize_joined hbounds hprimitive, read_joined hbounds hprimitive hreadable⟩

theorem canonical_reads_back_with_zeros_and_patches :
    Constraint.IsReadFrom ⟨.ge, "3.10"⟩ ">= 03.010.5".toList ∧
    List.Forall₂ (fun segment c => Constraint.IsReadFrom c segment)
      (segments " ^03.8 ,,~=0.9.2".toList) [⟨.caret, "3.8"⟩, ⟨.compatible, "0.9"⟩] ∧
    Constraint.IsCanonical ⟨.lt, "4.0"⟩ ∧
    readPlain "^3.10,!=0.9" = .ok [⟨.caret, "3.10"⟩, ⟨.ne, "0.9"⟩] ∧
    normalize ">3.10,!=0.9" = .ok ">3.10,!=0.9" ∧
    read ">3.10,!=0.9" = .ok [⟨.gt, "3.10"⟩, ⟨.ne, "0.9"⟩] := by
  obtain ⟨hsegment, hplain, hread, hjoined⟩ := canonical_reads_back
  have hfirst : Segment.read ">= 03.010.5" = .ok ⟨.ge, "3.10"⟩ := by decide +kernel
  have hsecond : readPlain " ^03.8 ,,~=0.9.2" = .ok [⟨.caret, "3.8"⟩, ⟨.compatible, "0.9"⟩] := by
    decide +kernel
  have hthird : read "^3.10" = .ok [⟨.ge, "3.10"⟩, ⟨.lt, "4.0"⟩] := by decide +kernel
  have hten (operator : Operator) : Constraint.IsCanonical ⟨operator, "3.10"⟩ := by
    have htext : (Spelling.ofLine (toLex (3, 10))).text = "3.10" := by decide +kernel
    rw [← htext]
    exact Constraint.isCanonical_ofLine operator (by unfold Spelling.IsReadable; decide +kernel)
  have hnine : Constraint.IsCanonical ⟨.ne, "0.9"⟩ := by
    have htext : (Spelling.ofLine (toLex (0, 9))).text = "0.9" := by decide +kernel
    rw [← htext]
    exact Constraint.isCanonical_ofLine .ne (by unfold Spelling.IsReadable; decide +kernel)
  have hcanonical (operator : Operator) :
      ∀ c ∈ [⟨operator, "3.10"⟩, (⟨.ne, "0.9"⟩ : Constraint)], c.IsCanonical := by
    intro c hc
    rcases List.mem_pair.mp hc with rfl | rfl
    · exact hten operator
    · exact hnine
  have hprimitive := (hjoined _ (List.cons_ne_nil _ _) (hcanonical .gt)).2 (by decide)
  exact ⟨hsegment _ _ hfirst, hplain _ _ hsecond, hread _ _ hthird _ (by simp),
    (hjoined _ (List.cons_ne_nil _ _) (hcanonical .caret)).1, hprimitive.1, hprimitive.2⟩

end Expression

end ReleaseLines
