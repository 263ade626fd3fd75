import ReleaseLines.Proofs.Constraint.Answer
import ReleaseLines.Proofs.Text.Lines

namespace ReleaseLines

namespace Expression

/-- What a malformed constraint names is what is left of a part of the expression. -/
theorem exists_part_of_malformed {expression segment reason : String}
    (h : read expression = .error (.malformedConstraint segment reason)) :
    ∃ part ∈ segments expression.toList, segment = String.ofList (Token.stripPatches part) ∧
      ∃ flaw : Segment.Flaw, reason = flaw.text := by
  have hne : expression ≠ "" := by
    rintro rfl
    rw [read_empty] at h
    cases h
  cases hnormal : (segments expression.toList).mapM Token.normalizeChars with
  | error problem =>
    rw [read_of_normalize_eq_error hnormal] at h
    cases h
  | ok plains =>
    have hparts : segments expression.toList ≠ [] := by
      intro hnil
      obtain rfl : plains = [] := by
        rw [hnil] at hnormal
        exact (Except.ok.inj hnormal).symm
      rw [read_of_normalized hne hnormal] at h
      cases h
    rw [read_of_normalize_eq_ok hparts hnormal] at h
    cases hresults : (segments expression.toList).mapM readPart with
    | ok results =>
      rw [hresults] at h
      cases h
    | error fault =>
      rw [hresults] at h
      obtain rfl := Except.error.inj h
      obtain ⟨before, part, after, hsplit, _, hpart⟩ := exists_of_mapM_eq_error hresults
      have hmem : part ∈ segments expression.toList := by simp [hsplit]
      -- a part that is in the grammar is only refused for the length of a number
      by_cases hclause : ∃ clause : Clause, clause.chars = part
      · obtain ⟨clause, rfl⟩ := hclause
        obtain ⟨_, _, hproblem⟩ := Clause.exists_of_readPart_eq_error hpart
        cases hproblem
      · obtain ⟨flaw, _, hflaw⟩ := readPart_of_not_clause hmem fun clause hc => hclause ⟨clause, hc⟩
        obtain ⟨rfl, rfl⟩ :=
          Fault.malformedConstraint.inj (Except.error.inj (hpart.symm.trans hflaw))
        exact ⟨part, hmem, rfl, flaw, rfl⟩

theorem mem_of_mem_malformed {expression segment reason : String}
    (h : read expression = .error (.malformedConstraint segment reason)) {c : Char}
    (hc : c ∈ segment.toList) : c ∈ expression.toList := by
  obtain ⟨part, hpart, rfl, _⟩ := exists_part_of_malformed h
  rw [String.toList_ofList] at hc
  exact (infix_of_mem_segments hpart).subset (Token.mem_of_mem_stripPatches hc)

end Expression

namespace Fault

/-- A fault over an expression: it is refused or matches nothing. -/
def IsRejection (fault : Fault) : Prop :=
  fault.isA .constraint = true ∨ fault.isA .noMatch = true

theorem IsRejection.isA_general {fault : Fault} (h : fault.IsRejection) :
    fault.isA .general = true := by
  unfold IsRejection isA at *
  cases hkind : fault.kind? with
  | none => simp [hkind] at h
  | some own =>
    simp only [hkind, Option.any_some] at h ⊢
    revert h
    cases own <;> decide

/-- Not a fault of this library's own. -/
def IsForeign (fault : Fault) : Prop := fault.isA .general = false

theorem IsRejection.not_isForeign {fault : Fault} (h : fault.IsRejection) :
    ¬fault.IsForeign := by
  rw [IsForeign, h.isA_general]
  exact Bool.noConfusion

/-- What a fault quotes of an expression. -/
def quotation : Fault → String
  | malformedConstraint segment _ => segment
  | noMatch expression => expression
  | _ => ""

theorem message_of_malformed {reason : String} (segment : String)
    (h : (reason == "") = false) :
    (malformedConstraint segment reason).message =
      "invalid constraint format: '" ++ segment ++ ("'" ++ (" (" ++ reason ++ ")")) := by
  have hmessage : (malformedConstraint segment reason).message =
      "invalid constraint format: '" ++ segment ++ "'" ++
        (if reason == "" then "" else " (" ++ reason ++ ")") := rfl
  rw [hmessage, h, if_neg Bool.false_ne_true, String.append_assoc]

/-- The message over an expression that is rejected is unbroken but for what it quotes. -/
theorem IsRejection.exists_message {expression : String} {fault : Fault}
    (h : fault.IsRejection)
    (hfault : Expression.read expression = .error fault ∨ fault = .noMatch expression) :
    (∀ c ∈ fault.quotation.toList, c ∈ expression.toList) ∧
      ∃ before after : String, Text.IsUnbroken before ∧ Text.IsUnbroken after ∧
        fault.message = before ++ fault.quotation ++ after := by
  rcases hfault with hread | rfl
  · rcases Expression.read_cases expression with ⟨hanswer, _⟩ | ⟨_, problem, _, hproblem⟩
    · rw [hread] at hanswer
      rcases hanswer with rfl | rfl | ⟨segment, reason, rfl⟩
      · exact ⟨fun _ => List.not_mem_nil.elim, "empty constraint string", "", by decide,
          by decide, rfl⟩
      · exact ⟨fun _ => List.not_mem_nil.elim, "no valid constraints found", "", by decide,
          by decide, rfl⟩
      · obtain ⟨_, _, _, flaw, rfl⟩ := Expression.exists_part_of_malformed hread
        have htext : (flaw.text == "") = false := by cases flaw <;> decide
        have hafter : Text.IsUnbroken ("'" ++ (" (" ++ flaw.text ++ ")")) := by
          cases flaw <;> decide +kernel
        exact ⟨fun c => Expression.mem_of_mem_malformed hread, _, _, by decide, hafter,
          message_of_malformed segment htext⟩
    · cases hread.symm.trans hproblem
      rcases h with h | h
      · cases h
      · cases h
  · exact ⟨fun c hc => hc, "no versions match the constraint '", "'", by decide, by decide, rfl⟩

end Fault

end ReleaseLines
