import ReleaseLines.Proofs.Text.Pieces
import ReleaseLines.Numeral
import Mathlib.Data.List.Basic
import Mathlib.Data.List.Induction
import Mathlib.Tactic.IntervalCases

namespace ReleaseLines

namespace Text

theorem isDigit_iff {c : Char} : isDigit c = true ↔ 48 ≤ c.toNat ∧ c.toNat ≤ 57 := by
  simp only [isDigit, Bool.and_eq_true, decide_eq_true_eq]

theorem isBlank_of_isDigit {c : Char} (h : isDigit c = true) : isBlank c = false := by
  rw [isDigit_iff] at h
  simp only [isBlank, Bool.or_eq_false_iff, Bool.and_eq_false_iff, decide_eq_false_iff_not,
    beq_eq_false_iff_ne]
  omega

theorem ne_of_isDigit {c d : Char} (h : isDigit c = true) (hd : isDigit d = false) : c ≠ d := by
  rintro rfl
  simp [h] at hd

theorem digitValue?_of_isDigit {c : Char} (h : isDigit c = true) :
    digitValue? c = some (c.toNat - 48) := by
  have hc := isDigit_iff.mp h
  have hzeros : digitZeros = 48 :: digitZeros.tail := rfl
  rw [digitValue?, hzeros, List.find?_cons_of_pos, Option.map_some]
  simp only [Bool.and_eq_true, decide_eq_true_eq]
  omega

end Text

namespace Numeral

theorem isBodyChar_of_isDigit {c : Char} (h : Text.isDigit c = true) : isBodyChar c = true := by
  simp [isBodyChar, Text.isDecimalDigit, Text.digitValue?_of_isDigit h]

theorem isOuterBlank_of_isDigit {c : Char} (h : Text.isDigit c = true) :
    isOuterBlank c = false := by
  simp [isOuterBlank, Text.isBlank_of_isDigit h]

theorem valueOf_concat (values : List Nat) (d : Nat) :
    valueOf (values ++ [d]) = 10 * valueOf values + d := by
  simp [valueOf, List.foldl_append]

theorem powerOfTen_succ (k : Nat) : powerOfTen (k + 1) = 10 * powerOfTen k :=
  Nat.pow_succ'

theorem powerOfTen_le_powerOfTen {j k : Nat} (h : j ≤ k) : powerOfTen j ≤ powerOfTen k :=
  Nat.pow_le_pow_right (by omega) h

theorem valueOf_lt {values : List Nat} (h : ∀ d ∈ values, d < 10) :
    valueOf values < powerOfTen values.length := by
  induction values using List.reverseRecOn with
  | nil => exact Nat.one_pos
  | append_singleton initial d ih =>
    have hinitial := ih fun e he => h e (by simp [he])
    have hd := h d (by simp)
    rw [valueOf_concat, List.length_append, List.length_singleton, powerOfTen_succ]
    omega

theorem toNat_digitChar {d : Nat} (h : d < 10) : (digitChar d).toNat = 48 + d := by
  interval_cases d <;> rfl

theorem isDigit_digitChar {d : Nat} (h : d < 10) : Text.isDigit (digitChar d) = true := by
  rw [Text.isDigit_iff, toNat_digitChar h]
  omega

theorem digitsOnto_eq (n : Nat) (rest : List Char) : digitsOnto n rest = digits n ++ rest := by
  induction n using Nat.strongRecOn generalizing rest with
  | ind n ih =>
    by_cases hn : n < 10
    · rw [digits, digitsOnto, if_pos hn, digitsOnto, if_pos hn, List.singleton_append]
    · rw [digits, digitsOnto, if_neg hn, ih (n / 10) (by omega), digitsOnto, if_neg hn,
        ih (n / 10) (by omega) [digitChar (n % 10)], List.append_assoc, List.singleton_append]

theorem digits_of_lt {n : Nat} (h : n < 10) : digits n = [digitChar n] := by
  rw [digits, digitsOnto, if_pos h]

theorem digits_of_le {n : Nat} (h : 10 ≤ n) :
    digits n = digits (n / 10) ++ [digitChar (n % 10)] := by
  rw [digits, digitsOnto, if_neg (by omega), digitsOnto_eq]

theorem digits_ne_nil (n : Nat) : digits n ≠ [] := by
  by_cases h : n < 10
  · simp [digits_of_lt h]
  · simp [digits_of_le (Nat.le_of_not_lt h)]

theorem isDigit_of_mem_digits {n : Nat} {c : Char} (h : c ∈ digits n) :
    Text.isDigit c = true := by
  induction n using Nat.strongRecOn with
  | ind n ih =>
    by_cases hn : n < 10
    · rw [digits_of_lt hn, List.mem_singleton] at h
      exact h ▸ isDigit_digitChar hn
    · rw [digits_of_le (Nat.le_of_not_lt hn), List.mem_append, List.mem_singleton] at h
      rcases h with h | rfl
      · exact ih (n / 10) (by omega) h
      · exact isDigit_digitChar (Nat.mod_lt n (by omega))

theorem head?_digits_ne_zero {n : Nat} (h : 0 < n) : (digits n).head? ≠ some '0' := by
  induction n using Nat.strongRecOn with
  | ind n ih =>
    by_cases hn : n < 10
    · intro hzero
      rw [digits_of_lt hn, List.head?_cons, Option.some.injEq] at hzero
      have hvalue := toNat_digitChar hn
      have hnat : '0'.toNat = 48 := rfl
      rw [hzero, hnat] at hvalue
      omega
    · have hhead : (digits n).head? = (digits (n / 10)).head? := by
        rw [digits_of_le (by omega), List.head?_append_of_ne_nil _ (digits_ne_nil _)]
      rw [hhead]
      exact ih (n / 10) (by omega) (by omega)

theorem digitChar_of_isDigit {c : Char} (h : Text.isDigit c = true) :
    digitChar (c.toNat - 48) = c := by
  have hc := Text.isDigit_iff.mp h
  have hnat : 48 + (c.toNat - 48) = c.toNat := by omega
  rw [digitChar, hnat, Char.ofNat_toNat]

/-- Digits that no superfluous zero leads are those of their value. -/
theorem digits_valueOf {cs : List Char} (hne : cs ≠ [])
    (hdigits : ∀ c ∈ cs, Text.isDigit c = true) (hshort : cs.head? = some '0' → cs = ['0']) :
    digits (valueOf (cs.map fun c => c.toNat - 48)) = cs := by
  induction cs using List.reverseRecOn with
  | nil => exact absurd rfl hne
  | append_singleton before c ih =>
    have hc := hdigits c (by simp)
    have hbound := Text.isDigit_iff.mp hc
    rw [List.map_append, List.map_singleton, valueOf_concat]
    by_cases hnil : before = []
    · subst hnil
      have hvalue : 10 * valueOf ([].map fun c : Char => c.toNat - 48) = 0 := rfl
      rw [hvalue, Nat.zero_add, digits_of_lt (by omega), digitChar_of_isDigit hc]
      rfl
    · have hhead : before.head? ≠ some '0' := by
        intro hzero
        have hlength := congrArg List.length
          (hshort (by rw [List.head?_append_of_ne_nil _ hnil]; exact hzero))
        have hpos := List.length_pos_iff.mpr hnil
        rw [List.length_append, List.length_singleton, List.length_singleton] at hlength
        omega
      have hbefore := ih hnil (fun d hd => hdigits d (by simp [hd])) fun hzero => absurd hzero hhead
      generalize valueOf (before.map fun c => c.toNat - 48) = value at hbefore ⊢
      have hpositive : 0 < value := by
        rcases Nat.eq_zero_or_pos value with rfl | h
        · rw [digits_of_lt (by omega)] at hbefore
          exact absurd (by rw [← hbefore]; rfl) hhead
        · exact h
      have hquotient : (10 * value + (c.toNat - 48)) / 10 = value := by omega
      have hremainder : (10 * value + (c.toNat - 48)) % 10 = c.toNat - 48 := by omega
      rw [digits_of_le (by omega), hquotient, hremainder, hbefore, digitChar_of_isDigit hc]

theorem length_digits_le {n k : Nat} (hk : 0 < k) (h : n < powerOfTen k) :
    (digits n).length ≤ k := by
  induction n using Nat.strongRecOn generalizing k with
  | ind n ih =>
    by_cases hn : n < 10
    · rw [digits_of_lt hn]
      exact hk
    · obtain ⟨j, rfl⟩ := Nat.exists_eq_succ_of_ne_zero (Nat.ne_of_gt hk)
      have hj : 0 < j := by
        rcases Nat.eq_zero_or_pos j with rfl | hj
        · exact absurd h hn
        · exact hj
      rw [powerOfTen_succ] at h
      have hlength := ih (n / 10) (by omega) hj (by omega)
      rw [digits_of_le (Nat.le_of_not_lt hn), List.length_append, List.length_singleton]
      omega

theorem write_of_lt {n : Nat} (h : n < powerOfTen digitLimit) :
    write n = .ok (natText n) := by
  rw [write, if_pos (by rwa [Int.natAbs_natCast])]
  rfl

theorem write_of_le {n : Nat} (h : powerOfTen digitLimit ≤ n) : write n = .error .tooLongToWrite := by
  rw [write, if_neg (by rw [Int.natAbs_natCast]; omega)]

theorem write_eq_ok_iff {n : Nat} {text : String} :
    write n = .ok text ↔ n < powerOfTen digitLimit ∧ text = natText n := by
  by_cases h : n < powerOfTen digitLimit
  · rw [write_of_lt h, Except.ok.injEq]
    exact ⟨fun htext => ⟨h, htext.symm⟩, fun htext => htext.2.symm⟩
  · rw [write_of_le (Nat.le_of_not_lt h)]
    simp [h]

end Numeral

/-- One digit from `0` to `9` or more. -/
structure DigitRun where
  chars : List Char
  ne_nil : chars ≠ []
  isDigit_of_mem : ∀ c ∈ chars, Text.isDigit c = true

namespace DigitRun

def value (run : DigitRun) : Nat := Numeral.valueOf (run.chars.map fun c => c.toNat - 48)

/-- The shortest spelling of a number. -/
def ofNat (n : Nat) : DigitRun :=
  ⟨Numeral.digits n, Numeral.digits_ne_nil n, fun _ => Numeral.isDigit_of_mem_digits⟩

theorem value_ofNat (n : Nat) : (ofNat n).value = n := by
  induction n using Nat.strongRecOn with
  | ind n ih =>
    simp only [value, ofNat]
    by_cases h : n < 10
    · simp [Numeral.digits_of_lt h, Numeral.toNat_digitChar h, Numeral.valueOf]
    · have hprevious := ih (n / 10) (by omega)
      simp only [value, ofNat] at hprevious
      rw [Numeral.digits_of_le (Nat.le_of_not_lt h), List.map_append, List.map_singleton,
        Numeral.valueOf_concat, hprevious, Numeral.toNat_digitChar (Nat.mod_lt n (by omega))]
      omega

/-- No zero stands before another digit. -/
def IsShortest (run : DigitRun) : Prop := run.chars.head? = some '0' → run.chars = ['0']

theorem isShortest_ofNat (n : Nat) : (ofNat n).IsShortest := by
  intro hzero
  rcases Nat.eq_zero_or_pos n with rfl | hn
  · exact Numeral.digits_of_lt (by omega)
  · exact absurd hzero (Numeral.head?_digits_ne_zero hn)

theorem IsShortest.chars_ofNat_value {run : DigitRun} (h : run.IsShortest) :
    (ofNat run.value).chars = run.chars :=
  Numeral.digits_valueOf run.ne_nil run.isDigit_of_mem h

theorem value_lt (run : DigitRun) : run.value < Numeral.powerOfTen run.chars.length := by
  have hdigits : ∀ d ∈ run.chars.map fun c => c.toNat - 48, d < 10 := by
    intro d hd
    obtain ⟨c, hc, rfl⟩ := List.mem_map.mp hd
    have := Text.isDigit_iff.mp (run.isDigit_of_mem c hc)
    omega
  have h := Numeral.valueOf_lt hdigits
  rwa [List.length_map] at h

theorem value_lt_limit {run : DigitRun} (h : run.chars.length ≤ Numeral.digitLimit) :
    run.value < Numeral.powerOfTen Numeral.digitLimit :=
  Nat.lt_of_lt_of_le run.value_lt (Numeral.powerOfTen_le_powerOfTen h)

theorem value_succ_lt_limit {run : DigitRun} (h : run.chars.length < Numeral.digitLimit) :
    run.value + 1 < Numeral.powerOfTen Numeral.digitLimit := by
  have hvalue := run.value_lt
  have hpower := Numeral.powerOfTen_le_powerOfTen (Nat.succ_le_of_lt h)
  rw [Nat.succ_eq_add_one, Numeral.powerOfTen_succ] at hpower
  omega

theorem length_ofNat_le {n : Nat} (h : n < Numeral.powerOfTen Numeral.digitLimit) :
    (ofNat n).chars.length ≤ Numeral.digitLimit :=
  Numeral.length_digits_le (by decide) h

theorem length_ofNat_le_iff {n : Nat} :
    (ofNat n).chars.length ≤ Numeral.digitLimit ↔ n < Numeral.powerOfTen Numeral.digitLimit := by
  refine ⟨fun h => ?_, length_ofNat_le⟩
  rw [← value_ofNat n]
  exact value_lt_limit h

theorem head_isDigit {run : DigitRun} {c : Char} {rest : List Char}
    (h : run.chars = c :: rest) : Text.isDigit c = true :=
  run.isDigit_of_mem c (by simp [h])

theorem filterMap_digitValue? (run : DigitRun) :
    run.chars.filterMap Text.digitValue? = run.chars.map fun c => c.toNat - 48 := by
  rw [← List.filterMap_eq_map]
  apply List.filterMap_congr
  intro c hc
  exact Text.digitValue?_of_isDigit (run.isDigit_of_mem c hc)

theorem signed_chars (run : DigitRun) : Numeral.signed run.chars = (false, run.chars) := by
  obtain ⟨c, rest, h⟩ := List.exists_cons_of_ne_nil run.ne_nil
  have hc := run.head_isDigit h
  have hminus : c ≠ '-' := Text.ne_of_isDigit hc rfl
  have hplus : c ≠ '+' := Text.ne_of_isDigit hc rfl
  rw [h, Numeral.signed.eq_3]
  · rintro rest' ⟨rfl, -⟩
    exact hminus rfl
  · rintro rest' ⟨rfl, -⟩
    exact hplus rfl

theorem isWellSpaced_chars (run : DigitRun) : Numeral.isWellSpaced run.chars = true := by
  have hp : Text.pieces (· == '_') run.chars = [run.chars] :=
    Text.pieces_eq_singleton fun c hc => by
      simpa using Text.ne_of_isDigit (d := '_') (run.isDigit_of_mem c hc) rfl
  simp [Numeral.isWellSpaced, hp, run.ne_nil]

theorem read_chars (run : DigitRun) :
    Numeral.read run.chars =
      if Numeral.digitLimit < run.chars.length then .error (.tooManyDigits run.chars.length)
      else .ok run.value := by
  have hbody : run.chars.takeWhile Numeral.isBodyChar = run.chars :=
    List.takeWhile_eq_self_iff.mpr fun c hc =>
      Numeral.isBodyChar_of_isDigit (run.isDigit_of_mem c hc)
  have hrest : run.chars.dropWhile Numeral.isBodyChar = [] :=
    List.dropWhile_eq_nil_iff.mpr fun c hc =>
      Numeral.isBodyChar_of_isDigit (run.isDigit_of_mem c hc)
  have hblank : run.chars.dropWhile Numeral.isOuterBlank = run.chars := by
    apply Text.dropWhile_of_takeWhile_eq_nil
    apply Text.takeWhile_eq_nil_iff.mpr
    intro c hc
    exact Numeral.isOuterBlank_of_isDigit
      (run.isDigit_of_mem c (List.mem_of_mem_head? hc))
  simp only [Numeral.read, hblank, run.signed_chars, hbody, hrest, run.isWellSpaced_chars,
    run.filterMap_digitValue?, List.length_map, Bool.not_true, Bool.false_eq_true, if_false,
    List.all_nil]
  rfl

theorem read_chars_of_le {run : DigitRun} (h : run.chars.length ≤ Numeral.digitLimit) :
    Numeral.read run.chars = .ok (run.value : Int) := by
  rw [run.read_chars, if_neg (by omega)]

theorem read_chars_eq_ok_iff {run : DigitRun} {n : Int} :
    Numeral.read run.chars = .ok n ↔ run.chars.length ≤ Numeral.digitLimit ∧ n = run.value := by
  by_cases h : run.chars.length ≤ Numeral.digitLimit
  · rw [read_chars_of_le h, Except.ok.injEq]
    exact ⟨fun hn => ⟨h, hn.symm⟩, fun hn => hn.2.symm⟩
  · rw [run.read_chars, if_pos (by omega)]
    simp [h]

end DigitRun

end ReleaseLines
