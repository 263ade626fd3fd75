import ReleaseLines.Proofs.Constraint.Selection

namespace ReleaseLines

namespace Clause

theorem staysShort_written (operator : Operator) (line : ℕ ×ₗ ℕ) :
    (written operator line).staysShort = false := by
  simp [written, staysShort]

theorem bounds_written {operator : Operator} (line : ℕ ×ₗ ℕ) (h : operator.isPrimitive = true) :
    (written operator line).bounds = [(operator, line)] := by
  have hline := Spelling.line_ofLine line
  cases operator with
  | caret | compatible => cases h
  | _ => simp only [written, bounds, hline]

theorem fits_written {operator : Operator} {line : ℕ ×ₗ ℕ} (h : operator.isPrimitive = true)
    (hr : (Spelling.ofLine line).IsReadable) : (written operator line).Fits := by
  rw [Fits, bounds_written line h, List.forall_mem_singleton]
  exact ⟨hr, hr⟩

end Clause

namespace Expression

/-- Constraints as the parts of one expression. -/
def joined (found : List Constraint) : String :=
  String.intercalate "," (found.map Constraint.text)

theorem toList_joined (bounds : List (Operator × (ℕ ×ₗ ℕ))) :
    (joined (bounds.map fun bound => .ofLine bound.1 bound.2)).toList =
      List.intercalate [','] (bounds.map fun bound => (Clause.written bound.1 bound.2).chars) := by
  simp only [joined, String.toList_intercalate, List.map_map, Function.comp_def,
    Clause.chars_written]
  rfl

theorem segments_joined (bounds : List (Operator × (ℕ ×ₗ ℕ))) :
    segments (joined (bounds.map fun bound => .ofLine bound.1 bound.2)).toList =
      (bounds.map fun bound => Clause.written bound.1 bound.2).map Clause.chars := by
  rw [toList_joined, segments_intercalate, List.map_map, List.flatMap_map]
  simp only [segments_chars]
  exact List.flatMap_pure_eq_map _ bounds

/-- What is read are bounds, each with numbers that can be read again. -/
theorem exists_bounds_of_read {expression : String} {found : List Constraint}
    {clauses : List Clause} (h : read expression = .ok found)
    (hparts : segments expression.toList = clauses.map Clause.chars) :
    found = (clauses.flatMap Clause.bounds).map (fun bound => .ofLine bound.1 bound.2) ∧
      clauses.flatMap Clause.bounds ≠ [] ∧
      ∀ bound ∈ clauses.flatMap Clause.bounds, (Spelling.ofLine bound.2).IsReadable := by
  obtain ⟨others, hne, hothers, hfits, rfl⟩ := read_eq_ok_iff.mp h
  obtain ⟨hfits, hconstraints⟩ := fits_of_map_chars_eq (hparts.symm.trans hothers) hfits
  refine ⟨hconstraints.trans List.map_flatMap.symm, fun hnil => ?_, fun bound hbound => ?_⟩
  · obtain ⟨clause, rest, rfl⟩ := List.exists_cons_of_ne_nil (l := clauses) (by
      rintro rfl
      exact hne (List.map_eq_nil_iff.mp (hothers.symm.trans hparts)))
    exact clause.bounds_ne_nil (List.append_eq_nil_iff.mp hnil).1
  · obtain ⟨clause, hclause, hbound⟩ := List.mem_flatMap.mp hbound
    exact (hfits clause hclause).2 bound hbound

theorem forall_isPrimitive_iff {expression : String} {found : List Constraint}
    {clauses : List Clause} (h : read expression = .ok found)
    (hparts : segments expression.toList = clauses.map Clause.chars) :
    (∀ c ∈ found, c.operator.isPrimitive = true) ↔
      ∀ clause ∈ clauses, clause.staysShort = false := by
  obtain ⟨rfl, _, _⟩ := exists_bounds_of_read h hparts
  simp only [List.forall_mem_map, Constraint.ofLine, ← Clause.forall_bounds_isPrimitive_iff,
    List.mem_flatMap]
  constructor
  · intro hall clause hclause bound hbound
    exact hall bound ⟨clause, hclause, hbound⟩
  · rintro hall bound ⟨clause, hclause, hbound⟩
    exact hall clause hclause bound hbound

/-- Primitive constraints are read back from their texts. -/
theorem read_joined {bounds : List (Operator × (ℕ ×ₗ ℕ))} (hne : bounds ≠ [])
    (hprimitive : ∀ bound ∈ bounds, bound.1.isPrimitive = true)
    (hreadable : ∀ bound ∈ bounds, (Spelling.ofLine bound.2).IsReadable) :
    read (joined (bounds.map fun bound => .ofLine bound.1 bound.2)) =
      .ok (bounds.map fun bound => .ofLine bound.1 bound.2) := by
  refine read_eq_ok_iff.mpr ⟨bounds.map fun bound => .written bound.1 bound.2,
    by simpa using hne, segments_joined bounds, ?_, ?_⟩
  · intro clause hclause
    obtain ⟨bound, hbound, rfl⟩ := List.mem_map.mp hclause
    exact Clause.fits_written (hprimitive bound hbound) (hreadable bound hbound)
  · have hconstraints : ∀ bound ∈ bounds, (Clause.written bound.1 bound.2).constraints =
        [Constraint.ofLine bound.1 bound.2] := fun bound hbound => by
      rw [Clause.constraints, Clause.bounds_written bound.2 (hprimitive bound hbound),
        List.map_singleton]
    rw [List.flatMap_map, List.flatMap_congr hconstraints]
    exact (List.flatMap_pure_eq_map _ bounds).symm

/-- What an expression is read as is primitive unless a shorthand of it stays one, and exactly what
is primitive is read back from its own text. -/
theorem read_joined_iff_isPrimitive {expression : String} {found : List Constraint}
    (h : read expression = .ok found) :
    (∃ clauses : List Clause, segments expression.toList = clauses.map Clause.chars) ∧
    (∀ clauses : List Clause, segments expression.toList = clauses.map Clause.chars →
      ((∀ c ∈ found, c.operator.isPrimitive = true) ↔
        ∀ clause ∈ clauses, clause.staysShort = false)) ∧
    (read (joined found) = .ok found ↔ ∀ c ∈ found, c.operator.isPrimitive = true) := by
  obtain ⟨clauses, _, hparts, _, _⟩ := read_eq_ok_iff.mp h
  obtain ⟨rfl, hne, hreadable⟩ := exists_bounds_of_read h hparts
  refine ⟨⟨clauses, hparts⟩, fun others hothers => forall_isPrimitive_iff h hothers, ?_, ?_⟩
  · intro hagain
    -- Nothing stays short in a text that was written without blanks.
    refine (forall_isPrimitive_iff hagain (segments_joined _)).mpr fun clause hclause => ?_
    obtain ⟨bound, _, rfl⟩ := List.mem_map.mp hclause
    exact Clause.staysShort_written bound.1 bound.2
  · intro hall
    rw [List.forall_mem_map] at hall
    exact read_joined hne hall hreadable

theorem read_joined_of_caret :
    read "^3.10, !=3.11" = .ok [⟨.ge, "3.10"⟩, ⟨.lt, "4.0"⟩, ⟨.ne, "3.11"⟩] ∧
      read ">=3.10,<4.0,!=3.11" = .ok [⟨.ge, "3.10"⟩, ⟨.lt, "4.0"⟩, ⟨.ne, "3.11"⟩] := by
  let clauses : List Clause := [.written .caret (toLex (3, 10)), .written .ne (toLex (3, 11))]
  have hfits : ∀ clause ∈ clauses, clause.Fits := by
    simp only [clauses, List.forall_mem_cons, List.not_mem_nil, false_imp_iff, implies_true,
      and_true]
    exact ⟨Clause.fits_of_short fun run h => h.length_le.trans_lt (by with_unfolding_all decide),
      Clause.fits_of_short fun run h => h.length_le.trans_lt (by with_unfolding_all decide)⟩
  have hread : read "^3.10, !=3.11" = .ok [⟨.ge, "3.10"⟩, ⟨.lt, "4.0"⟩, ⟨.ne, "3.11"⟩] :=
    read_eq_ok_iff.mpr ⟨clauses, List.cons_ne_nil _ _, by with_unfolding_all decide, hfits,
      by with_unfolding_all decide⟩
  exact ⟨hread, (read_joined_iff_isPrimitive hread).2.2.mpr (by decide)⟩

/-- A caret with a blank behind it that is no plain one is read as a caret. -/
theorem read_caret_of_odd_blank : read "^\u00a03.10" = .ok [⟨.caret, "3.10"⟩] := by
  let clause : Clause := .comparison .caret ['\u00a0'] (.ofLine (toLex (3, 10)))
    fun _ hc => List.mem_singleton.mp hc ▸ rfl
  have hfits : clause.Fits :=
    Clause.fits_of_short fun run h => h.length_le.trans_lt (by with_unfolding_all decide)
  exact read_eq_ok_iff.mpr ⟨[clause], List.cons_ne_nil _ _, by with_unfolding_all decide,
    by simpa using hfits, by with_unfolding_all decide⟩

/-- A shorthand may be left in what is read, and then its text is read as something else. -/
theorem not_always_isPrimitive :
    ¬∀ (expression : String) (found : List Constraint), read expression = .ok found →
      (∀ c ∈ found, c.operator.isPrimitive = true) ∧ read (joined found) = .ok found := by
  intro h
  exact absurd ((h _ _ read_caret_of_odd_blank).1 _ (List.mem_singleton_self _)) (by decide)

end Expression

end ReleaseLines
