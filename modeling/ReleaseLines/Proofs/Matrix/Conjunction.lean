import ReleaseLines.Proofs.Matrix.Build

namespace ReleaseLines

namespace Expression

theorem ne_nil_of_read {expression : String} {found : List Constraint}
    (h : read expression = .ok found) : found ≠ [] := by
  obtain ⟨clauses, hne, _, _, rfl⟩ := read_eq_ok_iff.mp h
  obtain ⟨clause, rest, rfl⟩ := List.exists_cons_of_ne_nil hne
  rw [List.flatMap_cons]
  exact List.append_ne_nil_of_left_ne_nil clause.constraints_ne_nil _

theorem read_append {first second : String} {found other : List Constraint}
    (hfirst : read first = .ok found) (hsecond : read second = .ok other) :
    read (first ++ "," ++ second) = .ok (found ++ other) := by
  obtain ⟨clauses, hne, hparts, hfits, rfl⟩ := read_eq_ok_iff.mp hfirst
  obtain ⟨others, _, hotherParts, hotherFits, rfl⟩ := read_eq_ok_iff.mp hsecond
  have htext : (first ++ "," ++ second).toList = first.toList ++ ',' :: second.toList := by simp
  apply read_eq_ok_iff.mpr
  refine ⟨clauses ++ others, List.append_ne_nil_of_left_ne_nil hne others, ?_, ?_, ?_⟩
  · rw [htext, segments_append_comma, hparts, hotherParts, List.map_append]
  · intro clause hclause
    rcases List.mem_append.mp hclause with hclause | hclause
    · exact hfits clause hclause
    · exact hotherFits clause hclause
  · rw [List.flatMap_append]

/-- Each constraint comes from a part, which is read by itself. -/
theorem mem_iff_of_read {expression : String} {found : List Constraint}
    (h : read expression = .ok found) (c : Constraint) :
    c ∈ found ↔ ∃ part ∈ segments expression.toList, ∃ cs, readPart part = .ok cs ∧ c ∈ cs := by
  obtain ⟨clauses, _, hparts, hfits, rfl⟩ := read_eq_ok_iff.mp h
  rw [hparts, List.mem_flatMap]
  constructor
  · intro hc
    obtain ⟨clause, hclause, hc⟩ := hc
    have hread := clause.readPart_chars_eq_ok_iff.mpr ⟨hfits clause hclause, rfl⟩
    exact ⟨clause.chars, List.mem_map_of_mem hclause, clause.constraints, hread, hc⟩
  · intro hc
    obtain ⟨part, hpart, cs, hread, hc⟩ := hc
    obtain ⟨clause, hclause, rfl⟩ := List.mem_map.mp hpart
    obtain ⟨_, rfl⟩ := clause.readPart_chars_eq_ok_iff.mp hread
    exact ⟨clause, hclause, hc⟩

/-- The two expressions have the same parts, in any order and as often as may be. -/
def SameParts (first second : String) : Prop :=
  ∀ part, part ∈ segments first.toList ↔ part ∈ segments second.toList

theorem mem_iff_of_sameParts {first second : String} {found other : List Constraint}
    (hfirst : read first = .ok found) (hsecond : read second = .ok other)
    (h : SameParts first second) (c : Constraint) : c ∈ found ↔ c ∈ other := by
  rw [mem_iff_of_read hfirst, mem_iff_of_read hsecond]
  exact exists_congr fun part => and_congr_left' (h part)

/-- Two answers to two expressions that differ at most in the expression that a fault names. -/
inductive AnswersAlike (first second : String) :
    Except Fault (List String) → Except Fault (List String) → Prop
  | chosen (lines : List String) : AnswersAlike first second (.ok lines) (.ok lines)
  | noMatch : AnswersAlike first second (.error (.noMatch first)) (.error (.noMatch second))
  | badValue (problem : BadValue) :
    AnswersAlike first second (.error (.badValue problem)) (.error (.badValue problem))

theorem answersAlike_resolve {σ τ : Type} {first second : String} {found other : List Constraint}
    {lines : List String} (hfirst : read first = .ok found) (hsecond : read second = .ok other)
    (hsame : SameParts first second) (hne : lines ≠ []) (state : σ) (state' : τ) :
    AnswersAlike first second (resolve first lines state).result
      (resolve second lines state').result := by
  have hselect := Constraint.select_congr (ne_nil_of_read hfirst)
    (fun _ => exists_read_version hfirst) (mem_iff_of_sameParts hfirst hsecond hsame) lines
  rw [resolve_result_of_read hfirst hne, resolve_result_of_read hsecond hne, ← hselect]
  cases Constraint.select lines found with
  | error problem => exact .badValue problem
  | ok selected =>
    cases selected with
    | nil => exact .noMatch
    | cons line rest => exact .chosen (line :: rest)

/-- An expression says all that its parts say, whatever their order. To join two is to select by one
and then by the other; those with the same parts are answered alike; and a line that cannot be read
is reported under any of them. -/
theorem parts_are_conjoined {first second : String} {found other : List Constraint}
    (hfirst : read first = .ok found) (hsecond : read second = .ok other) :
    (read (first ++ "," ++ second) = .ok (found ++ other) ∧
      ∀ lines,
        Constraint.select lines (found ++ other) =
          Constraint.select lines found >>= (fun kept => Constraint.select kept other) ∧
        ∀ kept both, Constraint.select lines found = .ok kept →
          Constraint.select lines (found ++ other) = .ok both → both.Sublist kept) ∧
    (SameParts first second → ∀ lines : List String, lines ≠ [] →
      ∀ {σ τ : Type} (state : σ) (state' : τ),
        AnswersAlike first second (resolve first lines state).result
          (resolve second lines state').result) ∧
    ∀ lines,
      ((∃ problem, Constraint.select lines found = .error problem) ↔
        ∃ line ∈ lines, ∀ version, Version.read line ≠ .ok version) ∧
      ∀ kept, Constraint.select lines found = .ok kept →
        kept.Sublist lines ∧ Constraint.select kept found = .ok kept := by
  have hne := ne_nil_of_read hfirst
  have hfound : ∀ c ∈ found, ∃ version, Version.read c.version = .ok version := by
    intro c hc
    exact exists_read_version hfirst hc
  have hother : ∀ c ∈ other, ∃ version, Version.read c.version = .ok version := by
    intro c hc
    exact exists_read_version hsecond hc
  have happend := Constraint.select_append hne hfound hother
  refine ⟨⟨read_append hfirst hsecond, ?_⟩, ?_, ?_⟩
  · intro lines
    refine ⟨happend lines, ?_⟩
    intro kept both hkept hboth
    rw [happend, hkept] at hboth
    exact Constraint.select_sublist hboth
  · intro hsame lines hlines σ τ state state'
    exact answersAlike_resolve hfirst hsecond hsame hlines state state'
  · intro lines
    refine ⟨Constraint.exists_select_eq_error_iff hne hfound, ?_⟩
    intro kept hkept
    exact ⟨Constraint.select_sublist hkept, Constraint.select_again hne hfound hkept⟩

theorem parts_are_conjoined_of_repeated_caret :
    read ">=3.9, ^3.10,^3.10,, >=3.9 " =
      .ok [⟨.ge, "3.9"⟩, ⟨.ge, "3.10"⟩, ⟨.lt, "4.0"⟩, ⟨.ge, "3.10"⟩, ⟨.lt, "4.0"⟩, ⟨.ge, "3.9"⟩] ∧
    AnswersAlike ">=3.9, ^3.10" "^3.10,, >=3.9 "
      (resolve ">=3.9, ^3.10" ["4.0", "3.11", "3.8"] ()).result
      (resolve "^3.10,, >=3.9 " ["4.0", "3.11", "3.8"] ()).result ∧
    (∃ problem, Constraint.select ["2.7", "next"] [⟨.ge, "3.9"⟩, ⟨.ge, "3.10"⟩, ⟨.lt, "4.0"⟩] =
      .error problem) := by
  have hfirst : read ">=3.9, ^3.10" = .ok [⟨.ge, "3.9"⟩, ⟨.ge, "3.10"⟩, ⟨.lt, "4.0"⟩] := by
    decide +kernel
  have hsecond : read "^3.10,, >=3.9 " = .ok [⟨.ge, "3.10"⟩, ⟨.lt, "4.0"⟩, ⟨.ge, "3.9"⟩] := by
    decide +kernel
  have hsame : SameParts ">=3.9, ^3.10" "^3.10,, >=3.9 " := by
    intro part
    have hparts : segments ">=3.9, ^3.10".toList = [">=3.9".toList, "^3.10".toList] := by
      decide +kernel
    have hotherParts : segments "^3.10,, >=3.9 ".toList = ["^3.10".toList, ">=3.9".toList] := by
      decide +kernel
    rw [hparts, hotherParts, List.mem_pair, List.mem_pair, or_comm]
  have hunreadable : ∀ version, Version.read "next" ≠ .ok version := by
    intro version hversion
    have hread : Version.read "next" = .error (.notMajorMinor "next") := by decide +kernel
    rw [hread] at hversion
    cases hversion
  obtain ⟨⟨hjoined, _⟩, halike, hselect⟩ := parts_are_conjoined hfirst hsecond
  exact ⟨hjoined, halike hsame _ (List.cons_ne_nil _ _) () (),
    (hselect _).1.mpr ⟨"next", by simp, hunreadable⟩⟩

end Expression

end ReleaseLines
