import ReleaseLines.Proofs.Version.Spelling

namespace ReleaseLines

/-- A constraint on a line that is given by its numbers. -/
def Constraint.ofLine (operator : Operator) (line : ℕ ×ₗ ℕ) : Constraint :=
  ⟨operator, (Spelling.ofLine line).text⟩

/-- An operator that compares by itself and stands for no range. -/
def Operator.isPrimitive : Operator → Bool
  | compatible | caret => false
  | _ => true

/-- One part of an expression in its written form. -/
inductive Clause
  /-- An operator, blanks and a version. -/
  | comparison (operator : Operator) (blanks : List Char) (version : Spelling)
      (isBlank_of_mem : ∀ c ∈ blanks, Text.isBlank c = true)
  /-- Any patch of a line. -/
  | wildcard (blanks : List Char) (major minor : DigitRun)
      (isPlainBlank_of_mem : ∀ c ∈ blanks, Text.isPlainBlank c = true)

namespace Clause

def chars : Clause → List Char
  | comparison operator blanks version _ => operator.symbol.toList ++ (blanks ++ version.chars)
  | wildcard blanks major minor _ =>
    Operator.eq.symbol.toList ++ (blanks ++ (major.chars ++ '.' :: (minor.chars ++ ['.', '*'])))

/-- The version that a part names, without its patch. -/
def version : Clause → Spelling
  | comparison _ _ version _ => version
  | wildcard _ major minor _ => ⟨major, minor, none⟩

/-- The lines that a part admits, by the text of the part alone. -/
def Admits (clause : Clause) (line : ℕ ×ₗ ℕ) : Prop :=
  match clause with
  | comparison operator _ version _ => operator.Relates line version.line
  | wildcard _ major minor _ => line = toLex (major.value, minor.value)

instance (clause : Clause) (line : ℕ ×ₗ ℕ) : Decidable (clause.Admits line) :=
  match clause with
  | comparison operator _ version _ => inferInstanceAs (Decidable (operator.Relates line version.line))
  | wildcard _ major minor _ =>
    inferInstanceAs (Decidable (line = toLex (major.value, minor.value)))

def nextMajor (line : ℕ ×ₗ ℕ) : ℕ ×ₗ ℕ := toLex ((ofLex line).1 + 1, 0)

def nextMinor (line : ℕ ×ₗ ℕ) : ℕ ×ₗ ℕ := toLex ((ofLex line).1, (ofLex line).2 + 1)

/-- What a part is counted out as: a shorthand becomes two bounds, unless it is a caret or a tilde
with a blank behind it that is no plain one. -/
def bounds : Clause → List (Operator × (ℕ ×ₗ ℕ))
  | comparison operator blanks version _ =>
    match operator, blanks.all Text.isPlainBlank with
    | .caret, true => [(.ge, version.line), (.lt, nextMajor version.line)]
    | .compatible, true => [(.ge, version.line), (.lt, nextMinor version.line)]
    | operator, _ => [(operator, version.line)]
  | wildcard _ major minor _ =>
    let line := toLex (major.value, minor.value)
    [(.ge, line), (.lt, nextMinor line)]

def constraints (clause : Clause) : List Constraint :=
  clause.bounds.map fun bound => .ofLine bound.1 bound.2

/-- Whether a part is a shorthand that becomes two bounds. -/
def isCountedOut : Clause → Bool
  | comparison operator blanks _ _ => !operator.isPrimitive && blanks.all Text.isPlainBlank
  | wildcard _ _ _ _ => true

/-- Whether a part is a shorthand that stays one. -/
def staysShort : Clause → Bool
  | comparison operator blanks _ _ => !operator.isPrimitive && !blanks.all Text.isPlainBlank
  | wildcard _ _ _ _ => false

theorem bounds_ne_nil (clause : Clause) : clause.bounds ≠ [] := by
  cases clause with
  | wildcard => simp [bounds]
  | comparison operator blanks version blank =>
    cases operator <;> cases hp : blanks.all Text.isPlainBlank <;> simp [bounds, hp]

theorem constraints_ne_nil (clause : Clause) : clause.constraints ≠ [] :=
  fun h => clause.bounds_ne_nil (List.map_eq_nil_iff.mp h)

theorem forall_bounds_isPrimitive_iff (clause : Clause) :
    (∀ bound ∈ clause.bounds, bound.1.isPrimitive = true) ↔ clause.staysShort = false := by
  cases clause with
  | wildcard => simp [bounds, staysShort, Operator.isPrimitive]
  | comparison operator blanks version blank =>
    cases operator <;> cases hp : blanks.all Text.isPlainBlank <;>
      simp [bounds, staysShort, Operator.isPrimitive, hp]

theorem lt_nextMajor_iff {line bound : ℕ ×ₗ ℕ} :
    line < nextMajor bound ↔ (ofLex line).1 ≤ (ofLex bound).1 := by
  rw [← toLex_ofLex line, nextMajor, Prod.Lex.toLex_lt_toLex]
  simp only [ofLex_toLex]
  omega

theorem lt_nextMinor_iff {line bound : ℕ ×ₗ ℕ} : line < nextMinor bound ↔ line ≤ bound := by
  rw [← toLex_ofLex line, ← toLex_ofLex bound, nextMinor, Prod.Lex.toLex_lt_toLex,
    Prod.Lex.toLex_le_toLex]
  simp only [ofLex_toLex]
  omega

theorem caret_relates_iff {line bound : ℕ ×ₗ ℕ} :
    Operator.caret.Relates line bound ↔ bound ≤ line ∧ line < nextMajor bound := by
  rw [Operator.Relates, lt_nextMajor_iff]
  refine and_congr_right fun hle => ⟨fun h => h.le, fun h => le_antisymm h ?_⟩
  exact Prod.Lex.monotone_fst _ _ hle

theorem eq_iff_between {line bound : ℕ ×ₗ ℕ} :
    line = bound ↔ bound ≤ line ∧ line < nextMinor bound := by
  rw [lt_nextMinor_iff, le_antisymm_iff, and_comm]

/-- The bounds of a part mean what its text says. -/
theorem forall_bounds_iff_admits (clause : Clause) (line : ℕ ×ₗ ℕ) :
    (∀ bound ∈ clause.bounds, bound.1.Relates line bound.2) ↔ clause.Admits line := by
  cases clause with
  | wildcard blanks major minor plain =>
    simpa [bounds, Admits, Operator.Relates] using eq_iff_between.symm
  | comparison operator blanks version blank =>
    cases hp : blanks.all Text.isPlainBlank with
    | false => cases operator <;> simp [bounds, Admits, hp]
    | true =>
      cases operator with
      | caret =>
        simp only [bounds, hp, Admits, caret_relates_iff]
        simp [Operator.Relates]
      | compatible =>
        simp only [bounds, hp, Admits, Operator.Relates]
        simpa [Operator.Relates] using eq_iff_between.symm
      | _ => simp [bounds, Admits]

end Clause

end ReleaseLines
