import ReleaseLines.Calendar.Instant
import Mathlib.Order.Monotone.Defs
import Mathlib.Order.Defs.LinearOrder
import Mathlib.Algebra.Order.Group.Int

namespace ReleaseLines

namespace Date

theorem le_iff {a b : Date} :
    a ≤ b ↔ a.year < b.year ∨ a.year = b.year ∧
      (a.month < b.month ∨ a.month = b.month ∧ a.day ≤ b.day) := by
  have hle : a ≤ b ↔ a.notAfter b = true := Iff.rfl
  rw [hle, notAfter]
  simp only [Bool.or_eq_true, Bool.and_eq_true, decide_eq_true_iff, beq_iff_eq]

protected theorem le_refl (d : Date) : d ≤ d := by
  rw [le_iff]
  omega

protected theorem le_trans (a b c : Date) (hab : a ≤ b) (hbc : b ≤ c) : a ≤ c := by
  rw [le_iff] at hab hbc ⊢
  omega

protected theorem le_antisymm (a b : Date) (hab : a ≤ b) (hba : b ≤ a) : a = b := by
  rw [le_iff] at hab hba
  cases a
  cases b
  simp only [Date.mk.injEq]
  simp only at hab hba
  omega

protected theorem le_total (a b : Date) : a ≤ b ∨ b ≤ a := by
  rw [le_iff, le_iff]
  omega

instance : LinearOrder Date where
  le_refl := Date.le_refl
  le_trans := Date.le_trans
  le_antisymm := Date.le_antisymm
  le_total := Date.le_total
  toDecidableLE := inferInstance
  toDecidableEq := inferInstance

theorem daysBeforeYear_mono : Monotone daysBeforeYear := by
  apply monotone_nat_of_le_succ
  intro year
  unfold daysBeforeYear
  omega

/-- In 400 years there are 146097 days, and the days before a year stay close to that share. -/
theorem daysBeforeYear_near (year : Nat) :
    146097 * year ≤ 400 * daysBeforeYear year + 396 ∧
      400 * daysBeforeYear year ≤ 146097 * year + 699 := by
  unfold daysBeforeYear
  omega

/-- The year of a day is the one that the day falls into; a guess by the average length of a year is
at most one off. -/
theorem year_ofDays (days : Nat) :
    daysBeforeYear (ofDays days).year ≤ days ∧ days < daysBeforeYear ((ofDays days).year + 1) := by
  have hguess : 146097 * (400 * days / 146097) ≤ 400 * days ∧
      400 * days < 146097 * (400 * days / 146097 + 1) := by omega
  unfold ofDays
  generalize 400 * days / 146097 = guess at hguess
  simp only
  split
  next hbelow =>
    have hpositive : guess ≠ 0 := by
      rintro rfl
      exact absurd hbelow (Nat.not_lt_zero days)
    have hnear := daysBeforeYear_near (guess - 1)
    have hnext : guess - 1 + 1 = guess := by omega
    rw [hnext]
    omega
  next hbelow =>
    split
    next habove =>
      have hnear := daysBeforeYear_near (guess + 1 + 1)
      omega
    next habove => omega

theorem le_monthAndDay (year dayOfYear month tries : Nat) :
    month ≤ (monthAndDay year dayOfYear month tries).1 := by
  induction tries generalizing dayOfYear month with
  | zero => exact Nat.le_refl month
  | succ tries ih =>
    rw [monthAndDay]
    split
    · exact Nat.le_refl month
    · have hnext := ih (dayOfYear - daysIn year month) (month + 1)
      omega

/-- A later day of the year has a later month, or a later day in the same month. -/
theorem monthAndDay_mono (year : Nat) {day later : Nat} (h : day ≤ later) (month tries : Nat) :
    (monthAndDay year day month tries).1 < (monthAndDay year later month tries).1 ∨
      (monthAndDay year day month tries).1 = (monthAndDay year later month tries).1 ∧
        (monthAndDay year day month tries).2 ≤ (monthAndDay year later month tries).2 := by
  -- Both days lose the same months one by one until the earlier one stops.
  induction tries generalizing day later month with
  | zero => exact .inr ⟨rfl, Nat.add_le_add_right h 1⟩
  | succ tries ih =>
    rw [monthAndDay, monthAndDay]
    by_cases hlater : later < daysIn year month
    · have hday : day < daysIn year month := by omega
      rw [if_pos hlater, if_pos hday]
      exact .inr ⟨rfl, Nat.add_le_add_right h 1⟩
    · rw [if_neg hlater]
      by_cases hday : day < daysIn year month
      · have hnext := le_monthAndDay year (later - daysIn year month) (month + 1) tries
        rw [if_pos hday]
        left
        omega
      · rw [if_neg hday]
        exact ih (Nat.sub_le_sub_right h _) (month + 1)

theorem ofDays_eq (days : Nat) :
    ((ofDays days).month, (ofDays days).day) =
      monthAndDay (ofDays days).year (days - daysBeforeYear (ofDays days).year) 1 11 :=
  rfl

theorem ofDays_mono : Monotone ofDays := by
  intro days later h
  have hdays := year_ofDays days
  have hlater := year_ofDays later
  have hyear : (ofDays days).year ≤ (ofDays later).year := by
    by_contra hafter
    have hnext : (ofDays later).year + 1 ≤ (ofDays days).year := by omega
    have hmono := daysBeforeYear_mono hnext
    omega
  rw [le_iff]
  rcases Nat.lt_or_eq_of_le hyear with hyear | hyear
  · exact .inl hyear
  · have hday : days - daysBeforeYear (ofDays days).year ≤
        later - daysBeforeYear (ofDays days).year := by omega
    have hmono := monthAndDay_mono (ofDays days).year hday 1 11
    have hsecond := ofDays_eq later
    rw [← hyear] at hsecond
    rw [← ofDays_eq days, ← hsecond] at hmono
    exact .inr ⟨hyear, hmono⟩

end Date

namespace Instant

theorem date_mono {earlier later : Instant} (h : earlier.micros ≤ later.micros) :
    earlier.date ≤ later.date := by
  apply Date.ofDays_mono
  apply Int.toNat_le_toNat
  exact Int.ediv_le_ediv (by decide) h

end Instant

end ReleaseLines
