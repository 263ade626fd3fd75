import ReleaseLines.Text.Split
import Mathlib.Tactic.ByContra

namespace ReleaseLines.Text

/-- A choice of the characters that end a line: line feeds are among them, and only characters that
end a line somewhere. -/
structure IsLineEnding (ends : Char → Bool) : Prop where
  feed : ends '\n' = true
  breaks : ∀ c, ends c = true → isLineBreak c = true

/-- One line with its end. -/
def IsOneLine (ends : Char → Bool) (text : String) : Prop :=
  ∃ line : List Char, text.toList = line ++ ['\n'] ∧ ∀ c ∈ line, ends c = false

theorem isOneLine_append_newline_iff {ends : Char → Bool} {line : String} :
    IsOneLine ends (line ++ "\n") ↔ ∀ c ∈ line.toList, ends c = false := by
  rw [IsOneLine, String.toList_append]
  constructor
  · rintro ⟨other, heq, hother⟩
    rw [List.append_cancel_right heq]
    exact hother
  · intro hline
    exact ⟨line.toList, rfl, hline⟩

/-- A text that no character breaks. -/
def IsUnbroken (text : String) : Prop := ∀ c ∈ text.toList, isLineBreak c = false

instance (text : String) : Decidable (IsUnbroken text) :=
  List.decidableBAll _ _

theorem IsUnbroken.append {first second : String} (h : IsUnbroken first)
    (h' : IsUnbroken second) : IsUnbroken (first ++ second) := by
  intro c hc
  rw [String.toList_append] at hc
  rcases List.mem_append.mp hc with hc | hc
  · exact h c hc
  · exact h' c hc

theorem IsLineEnding.eq_false_of_isUnbroken {ends : Char → Bool} (h : IsLineEnding ends)
    {text : String} (htext : IsUnbroken text) {c : Char} (hc : c ∈ text.toList) :
    ends c = false := by
  by_contra hends
  rw [Bool.not_eq_false] at hends
  have hbreaks := h.breaks c hends
  rw [htext c hc] at hbreaks
  cases hbreaks

/-- A text breaks where what stands between unbroken texts does. -/
theorem IsLineEnding.forall_append_iff {ends : Char → Bool} (h : IsLineEnding ends)
    {before between after : String} (hbefore : IsUnbroken before) (hafter : IsUnbroken after) :
    (∀ c ∈ (before ++ between ++ after).toList, ends c = false) ↔
      ∀ c ∈ between.toList, ends c = false := by
  simp only [String.toList_append, List.mem_append]
  constructor
  · intro hall c hc
    exact hall c (.inl (.inr hc))
  · rintro hbetween c ((hc | hc) | hc)
    · exact h.eq_false_of_isUnbroken hbefore hc
    · exact hbetween c hc
    · exact h.eq_false_of_isUnbroken hafter hc

end ReleaseLines.Text
