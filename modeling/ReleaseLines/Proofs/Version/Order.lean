import ReleaseLines.Constraint.Matching
import Mathlib.Data.Int.Order.Basic
import Mathlib.Data.Prod.Lex

namespace ReleaseLines

theorem isLE_compare_iff {α : Type} [LinearOrder α] {a b : α} :
    (compare a b).isLE = true ↔ a ≤ b :=
  Ordering.ne_gt_iff_isLE.symm.trans compare_le_iff_le

theorem isGE_compare_iff {α : Type} [LinearOrder α] {a b : α} :
    (compare a b).isGE = true ↔ b ≤ a :=
  Ordering.ne_lt_iff_isGE.symm.trans compare_ge_iff_ge

namespace Version

/-- The numbers of a line as a pair in lexicographic order. -/
def key (v : Version) : ℤ ×ₗ ℤ := toLex (v.major, v.minor)

theorem key_injective : Function.Injective key := by
  intro v w h
  obtain ⟨hmajor, hminor⟩ := Prod.mk.inj (toLex.injective h)
  cases v
  cases w
  simp_all

instance : Std.TransCmp order :=
  inferInstanceAs (Std.TransCmp (compareLex (compareOn major) (compareOn minor)))

instance : Std.LawfulEqCmp order where
  eq_of_compare {v w} h := by
    have hkeys : compare v.key w.key = .eq := h
    exact key_injective (compare_eq_iff_eq.mp hkeys)

theorem order_swap (v w : Version) : w.order v = (v.order w).swap := Std.OrientedCmp.eq_swap

theorem order_eq_iff {v w : Version} : v.order w = .eq ↔ v = w :=
  Std.LawfulEqCmp.compare_eq_iff_eq

theorem le_iff_key_le {v w : Version} : v ≤ w ↔ v.key ≤ w.key :=
  isLE_compare_iff (a := v.key) (b := w.key)

theorem lt_iff_key_lt {v w : Version} : v < w ↔ v.key < w.key :=
  compare_lt_iff_lt (a := v.key) (b := w.key)

theorem le_of_lt {v w : Version} (h : v < w) : v ≤ w :=
  le_iff_key_le.mpr (lt_iff_key_lt.mp h).le

theorem lt_of_le_of_ne {v w : Version} (hle : v ≤ w) (hne : v ≠ w) : v < w :=
  lt_iff_key_lt.mpr (lt_iff_le_and_ne.mpr ⟨le_iff_key_le.mp hle, key_injective.ne hne⟩)

def ofPair (numbers : ℕ ×ₗ ℕ) : Version := ⟨(ofLex numbers).1, (ofLex numbers).2⟩

theorem ofPair_order (a b : ℕ ×ₗ ℕ) : (ofPair a).order (ofPair b) = compare a b := by
  have hcast (m n : ℕ) : compare (m : ℤ) (n : ℤ) = compare m n := by
    rcases lt_trichotomy m n with h | rfl | h
    · rw [compare_lt_iff_lt.mpr h, compare_lt_iff_lt.mpr (Int.ofNat_lt.mpr h)]
    · rw [compare_eq_iff_eq.mpr rfl, compare_eq_iff_eq.mpr rfl]
    · rw [compare_gt_iff_gt.mpr h, compare_gt_iff_gt.mpr (Int.ofNat_lt.mpr h)]
  rw [order, ofPair, ofPair, hcast, hcast]
  rfl

end Version

/-- What an operator says of a line and a bound, both given by their two numbers. -/
def Operator.Relates (operator : Operator) (line bound : ℕ ×ₗ ℕ) : Prop :=
  match operator with
  | ge => bound ≤ line
  | gt => bound < line
  | le => line ≤ bound
  | lt => line < bound
  | eq | compatible => line = bound
  | ne => line ≠ bound
  | caret => bound ≤ line ∧ (ofLex line).1 = (ofLex bound).1

instance (operator : Operator) (line bound : ℕ ×ₗ ℕ) : Decidable (operator.Relates line bound) :=
  match operator with
  | .ge => inferInstanceAs (Decidable (bound ≤ line))
  | .gt => inferInstanceAs (Decidable (bound < line))
  | .le => inferInstanceAs (Decidable (line ≤ bound))
  | .lt => inferInstanceAs (Decidable (line < bound))
  | .eq | .compatible => inferInstanceAs (Decidable (line = bound))
  | .ne => inferInstanceAs (Decidable (line ≠ bound))
  | .caret => inferInstanceAs (Decidable (bound ≤ line ∧ (ofLex line).1 = (ofLex bound).1))

/-- Of the lines not below a bound only the bound itself is the same line. -/
theorem Operator.admits_compatible (line bound : Version) :
    compatible.admits line bound = eq.admits line bound := by
  rw [admits, admits, Bool.eq_iff_iff, Bool.and_eq_true, beq_iff_eq, Ordering.isEq_iff_eq_eq,
    Version.order_eq_iff]
  constructor
  · intro h
    exact h.2
  · intro h
    rw [h, Version.order_eq_iff.mpr rfl]
    exact ⟨rfl, rfl⟩

theorem Operator.admits_iff_relates (operator : Operator) (line bound : ℕ ×ₗ ℕ) :
    operator.admits (Version.ofPair line) (Version.ofPair bound) = true ↔
      operator.Relates line bound := by
  have horder := Version.ofPair_order line bound
  have heq : Operator.eq.admits (Version.ofPair line) (Version.ofPair bound) = true ↔
      line = bound := by
    simp [admits, horder, compare_eq_iff_eq]
  cases operator with
  | ge =>
    rw [admits, horder]
    exact isGE_compare_iff
  | gt => simp [admits, Relates, horder, compare_gt_iff_gt]
  | le =>
    rw [admits, horder]
    exact isLE_compare_iff
  | lt => simp [admits, Relates, horder, compare_lt_iff_lt]
  | eq => exact heq
  | compatible =>
    rw [admits_compatible]
    exact heq
  | ne => simp [admits, Relates, horder, compare_eq_iff_eq]
  | caret =>
    rw [admits, horder, Bool.and_eq_true, isGE_compare_iff, Relates, beq_iff_eq]
    exact and_congr_right fun _ => Int.ofNat_inj

end ReleaseLines
