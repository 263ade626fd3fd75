import ReleaseLines.Calendar.Date
import ReleaseLines.Proofs.Numeral.DigitRun
import Mathlib.Data.List.Lex
import Mathlib.Data.String.Basic

namespace ReleaseLines

/-- Texts of equal length in front decide the order, and what follows them where they agree. -/
theorem append_lt_append_iff {α : Type} [LinearOrder α] {xs ys after after' : List α}
    (h : xs.length = ys.length) :
    xs ++ after < ys ++ after' ↔ xs < ys ∨ xs = ys ∧ after < after' := by
  induction xs generalizing ys with
  | nil =>
    obtain rfl := List.length_eq_zero_iff.mp h.symm
    simp
  | cons x rest ih =>
    cases ys with
    | nil => cases h
    | cons y others =>
      have hlength : rest.length = others.length := Nat.succ.inj h
      rw [List.cons_append, List.cons_append, List.cons_lt_cons_iff, List.cons_lt_cons_iff,
        ih hlength, List.cons.injEq]
      tauto

namespace Numeral

theorem valueOf_zeros_append (k : Nat) (values : List Nat) :
    valueOf (List.replicate k 0 ++ values) = valueOf values := by
  induction k with
  | zero => rfl
  | succ k ih => exact ih

theorem digits_pair {tens units : Nat} (hpos : 0 < tens) (htens : tens < 10) (hunits : units < 10) :
    digits (10 * tens + units) = digits tens ++ digits units := by
  have hquotient : (10 * tens + units) / 10 = tens := by omega
  have hremainder : (10 * tens + units) % 10 = units := by omega
  rw [digits_of_le (by omega), hquotient, hremainder, digits_of_lt hunits]

theorem digits_of_two {n : Nat} (hlow : 10 ≤ n) (hhigh : n < 100) :
    digits n = [digitChar (n / 10), digitChar (n % 10)] := by
  have htens : n / 10 < 10 := by omega
  rw [digits_of_le hlow, digits_of_lt htens, List.singleton_append]

theorem digits_of_isDigit {c : Char} (h : Text.isDigit c = true) :
    c.toNat - 48 < 10 ∧ digits (c.toNat - 48) = [c] := by
  have hbounds := Text.isDigit_iff.mp h
  have hten : c.toNat - 48 < 10 := by omega
  exact ⟨hten, by rw [digits_of_lt hten, digitChar_of_isDigit h]⟩

/-- Digits in equal number are ordered as their values are. -/
theorem order_of_length_eq {xs ys : List Char} (hx : ∀ c ∈ xs, Text.isDigit c = true)
    (hy : ∀ c ∈ ys, Text.isDigit c = true) (h : xs.length = ys.length) :
    (xs < ys ↔ valueOf (xs.map fun c => c.toNat - 48) < valueOf (ys.map fun c => c.toNat - 48)) ∧
      (xs = ys ↔
        valueOf (xs.map fun c => c.toNat - 48) = valueOf (ys.map fun c => c.toNat - 48)) := by
  -- The last digits count once and what stands before them ten times.
  induction xs using List.reverseRecOn generalizing ys with
  | nil =>
    obtain rfl := List.length_eq_zero_iff.mp h.symm
    simp
  | append_singleton before c ih =>
    rcases List.eq_nil_or_concat' ys with rfl | ⟨front, d, rfl⟩
    · simp at h
    · have hlength : before.length = front.length := by simpa using h
      obtain ⟨hlt, heq⟩ := ih (fun e he => hx e (by simp [he])) (fun e he => hy e (by simp [he]))
        hlength
      have hc := Text.isDigit_iff.mp (hx c (by simp))
      have hd := Text.isDigit_iff.mp (hy d (by simp))
      have hless : [c] < [d] ↔ c.toNat < d.toNat := by
        rw [List.cons_lt_cons_iff]
        simp [Char.lt_def, UInt32.lt_iff_toNat_lt]
      have hsame : before ++ [c] = front ++ [d] ↔ before = front ∧ c.toNat = d.toNat := by
        rw [Char.toNat_inj]
        constructor
        · intro happend
          obtain ⟨hfront, hlast⟩ := List.append_inj' happend rfl
          exact ⟨hfront, List.singleton_inj.mp hlast⟩
        · rintro ⟨rfl, rfl⟩
          rfl
      rw [append_lt_append_iff hlength, hless, hsame, hlt, heq, List.map_append, List.map_append,
        List.map_singleton, List.map_singleton, valueOf_concat, valueOf_concat]
      generalize valueOf (before.map fun c => c.toNat - 48) = v
      generalize valueOf (front.map fun c => c.toNat - 48) = w
      omega

end Numeral

namespace DigitRun

theorem chars_lt_iff {a b : DigitRun} (h : a.chars.length = b.chars.length) :
    a.chars < b.chars ↔ a.value < b.value :=
  (Numeral.order_of_length_eq a.isDigit_of_mem b.isDigit_of_mem h).1

theorem chars_eq_iff {a b : DigitRun} (h : a.chars.length = b.chars.length) :
    a.chars = b.chars ↔ a.value = b.value :=
  (Numeral.order_of_length_eq a.isDigit_of_mem b.isDigit_of_mem h).2

/-- The digits of a number behind as many zeros as the width asks for. -/
def padded (width n : Nat) : DigitRun where
  chars := List.replicate (width - (Numeral.digits n).length) '0' ++ Numeral.digits n
  ne_nil := List.append_ne_nil_of_right_ne_nil _ (Numeral.digits_ne_nil n)
  isDigit_of_mem := by
    intro c hc
    rcases List.mem_append.mp hc with hc | hc
    · rw [List.eq_of_mem_replicate hc]
      rfl
    · exact Numeral.isDigit_of_mem_digits hc

theorem chars_padded (width n : Nat) :
    (padded width n).chars =
      List.replicate (width - (Numeral.digits n).length) '0' ++ Numeral.digits n :=
  rfl

theorem toList_padded (width n : Nat) : (Date.padded width n).toList = (padded width n).chars :=
  String.toList_ofList

theorem value_padded (width n : Nat) : (padded width n).value = n := by
  rw [value, chars_padded, List.map_append, List.map_replicate]
  exact (Numeral.valueOf_zeros_append _ _).trans (value_ofNat n)

theorem length_padded {width n : Nat} (hwidth : 0 < width) (h : n < Numeral.powerOfTen width) :
    (padded width n).chars.length = width := by
  have hle := Numeral.length_digits_le hwidth h
  rw [chars_padded, List.length_append, List.length_replicate]
  omega

end DigitRun

namespace Numeral

/-- The ways to write a number of at most two digits: in its digits, and where that is one digit
also behind one of the characters `leads`. -/
inductive Writes (leads : List Char) (n : Nat) : List Char → Prop
  | plain : Writes leads n (digits n)
  | behind {lead : Char} : lead ∈ leads → n < 10 → Writes leads n (lead :: digits n)

theorem writes_pair {leads : List Char} {tens units : Nat} {t c : Char} (hpos : 0 < tens)
    (htens : tens < 10 ∧ digits tens = [t]) (hunits : units < 10 ∧ digits units = [c]) :
    Writes leads (10 * tens + units) [t, c] := by
  obtain ⟨htens, ht⟩ := htens
  obtain ⟨hunits, hc⟩ := hunits
  have hpair : digits (10 * tens + units) = [t, c] := by
    rw [digits_pair hpos htens hunits, ht, hc, List.singleton_append]
  exact hpair ▸ .plain

theorem writes_padded {leads : List Char} {n : Nat} (hzero : '0' ∈ leads) (h : n < 100) :
    Writes leads n (DigitRun.padded 2 n).chars := by
  by_cases hn : n < 10
  · have hchars : (DigitRun.padded 2 n).chars = '0' :: digits n := by
      rw [DigitRun.chars_padded, digits_of_lt hn]
      rfl
    exact hchars ▸ .behind hzero hn
  · have hchars : (DigitRun.padded 2 n).chars = digits n := by
      rw [DigitRun.chars_padded, digits_of_two (by omega) h]
      rfl
    exact hchars ▸ .plain

end Numeral

end ReleaseLines
