import ReleaseLines.Text.Blank
import ReleaseLines.Text.DecimalDigit
import ReleaseLines.Text.Split
import Mathlib.Tactic.ByContra

namespace ReleaseLines.Text

theorem isDecimalDigit_iff {c : Char} :
    isDecimalDigit c = true ↔ ∃ start ∈ digitZeros, start ≤ c.toNat ∧ c.toNat < start + 10 := by
  simp [isDecimalDigit, digitValue?, List.find?_isSome]

/-- The ten digits of plain text stand before those of all other scripts. -/
theorem isDigit_or_le_of_isDecimalDigit {c : Char} (h : isDecimalDigit c = true) :
    isDigit c = true ∨ 0x660 ≤ c.toNat := by
  obtain ⟨start, hstart, hlow, hhigh⟩ := isDecimalDigit_iff.mp h
  have hzeros : ∀ start ∈ digitZeros, start = 48 ∨ 0x660 ≤ start := by decide
  rcases hzeros start hstart with rfl | hle
  · left
    simp only [isDigit, Bool.and_eq_true, decide_eq_true_eq]
    omega
  · exact .inr (Nat.le_trans hle hlow)

theorem isBlank_of_isDecimalDigit {c : Char} (h : isDecimalDigit c = true) : isBlank c = false := by
  obtain ⟨start, hstart, hlow, hhigh⟩ := isDecimalDigit_iff.mp h
  have hzeros : ∀ start ∈ digitZeros, start = 48 ∨ 0xA0 < start ∧ start + 10 ≤ 0x1680 ∨
      0x1680 < start ∧ start + 10 ≤ 0x2000 ∨ 0x3000 < start := by decide
  have hbounds := hzeros start hstart
  simp only [isBlank, Bool.or_eq_false_iff, Bool.and_eq_false_iff, decide_eq_false_iff_not,
    beq_eq_false_iff_ne]
  omega

theorem isBlank_of_isLineBreak {c : Char} (h : isLineBreak c = true) : isBlank c = true := by
  simp only [isLineBreak, Bool.or_eq_true, Bool.and_eq_true, decide_eq_true_eq, beq_iff_eq] at h
  simp only [isBlank, Bool.or_eq_true, Bool.and_eq_true, decide_eq_true_eq, beq_iff_eq]
  omega

theorem isBlank_of_letter {c : Char} (h : 65 ≤ c.toNat ∧ c.toNat ≤ 122) : isBlank c = false := by
  simp only [isBlank, Bool.or_eq_false_iff, Bool.and_eq_false_iff, decide_eq_false_iff_not,
    beq_eq_false_iff_ne]
  omega

theorem isDecimalDigit_of_letter {c : Char} (h : 65 ≤ c.toNat ∧ c.toNat ≤ 122) :
    isDecimalDigit c = false := by
  by_contra hdigit
  rw [Bool.not_eq_false] at hdigit
  rcases isDigit_or_le_of_isDecimalDigit hdigit with hplain | hle
  · simp only [isDigit, Bool.and_eq_true, decide_eq_true_eq] at hplain
    omega
  · omega

theorem toNat_toLower (c : Char) :
    c.toLower.toNat = if 65 ≤ c.toNat ∧ c.toNat ≤ 90 then c.toNat + 32 else c.toNat := by
  have hrange : c.val ≥ 'A'.val ∧ c.val ≤ 'Z'.val ↔ 65 ≤ c.toNat ∧ c.toNat ≤ 90 := by
    simp [UInt32.le_iff_toNat_le]
  unfold Char.toLower
  split
  next h =>
    rw [if_pos (hrange.mp h)]
    have hbound := (hrange.mp h).2
    have hgap : ('a'.val - 'A'.val).toNat = 32 := by decide
    show (c.val + ('a'.val - 'A'.val)).toNat = c.toNat + 32
    rw [UInt32.toNat_add, Char.toNat_val, hgap]
    exact Nat.mod_eq_of_lt (by omega)
  next h => rw [if_neg (mt hrange.mpr h)]

/-- A character with a letter of plain text for its lower case stands between the capital A and the
small z. -/
theorem bounds_of_toLower {c w : Char} (h : c.toLower = w) (hlow : 97 ≤ w.toNat)
    (hhigh : w.toNat ≤ 122) : 65 ≤ c.toNat ∧ c.toNat ≤ 122 := by
  have hcase := toNat_toLower c
  rw [h] at hcase
  split at hcase
  · omega
  · omega

end ReleaseLines.Text
