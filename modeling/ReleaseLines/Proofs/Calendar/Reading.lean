import ReleaseLines.Calendar.DateReader
import ReleaseLines.Proofs.Calendar.Order
import ReleaseLines.Proofs.Numeral.Width
import ReleaseLines.Proofs.Text.Classes

namespace ReleaseLines

namespace Date

open Numeral

/-- A day of the Gregorian calendar in the years 1 to 9999. -/
structure IsGregorian (d : Date) : Prop where
  year : 1 ≤ d.year ∧ d.year ≤ 9999
  month : 1 ≤ d.month ∧ d.month ≤ 12
  day : 1 ≤ d.day ∧ d.day ≤ 31
  short : d.month = 4 ∨ d.month = 6 ∨ d.month = 9 ∨ d.month = 11 → d.day ≤ 30
  february : d.month = 2 → d.day ≤ 29
  leap : d.month = 2 → d.day = 29 → 4 ∣ d.year ∧ (100 ∣ d.year → 400 ∣ d.year)

theorem isLeap_iff {year : Nat} : isLeap year = true ↔ 4 ∣ year ∧ (100 ∣ year → 400 ∣ year) := by
  simp only [isLeap, Bool.and_eq_true, Bool.or_eq_true, bne_iff_ne, beq_iff_eq]
  omega

theorem daysIn_cases (year month : Nat) :
    ((month = 4 ∨ month = 6 ∨ month = 9 ∨ month = 11) ∧ daysIn year month = 30) ∨
      (month = 2 ∧ daysIn year month = if isLeap year then 29 else 28) ∨
      ((month = 1 ∨ month = 3 ∨ month = 5 ∨ month = 7 ∨ month = 8 ∨ month = 10 ∨ month = 12) ∧
        daysIn year month = 31) ∨
      ((month < 1 ∨ 12 < month) ∧ daysIn year month = 0) := by
  by_cases hmonth : month ≤ 12
  · interval_cases month <;> simp [daysIn]
  · have hnone : daysIn year month = 0 := by
      unfold daysIn
      split <;> omega
    omega

theorem isReal_iff_isGregorian {d : Date} : d.isReal = true ↔ d.IsGregorian := by
  have hdays := daysIn_cases d.year d.month
  simp only [isReal, Bool.and_eq_true, decide_eq_true_eq]
  split at hdays
  all_goals
    rename_i hyear
    rw [isLeap_iff] at hyear
    constructor
    · intro h
      constructor <;> omega
    · intro h
      obtain ⟨_, _, _, _, _, _⟩ := h
      omega

/-- The ways to write a date: four digits of the year, the month, where one digit may stand behind a
zero, and the day, where it may also stand behind a blank. -/
def IsWritten (d : Date) (cs : List Char) : Prop :=
  ∃ (year : DigitRun) (month day : List Char), cs = year.chars ++ '-' :: (month ++ '-' :: day) ∧
    year.chars.length = 4 ∧ year.value = d.year ∧ Writes ['0'] d.month month ∧
    Writes ['0', ' '] d.day day

theorem digitFrom_eq_some_iff {low high c : Char} {n : Nat} :
    digitFrom low high c = some n ↔
      low.toNat ≤ c.toNat ∧ c.toNat ≤ high.toNat ∧ c.toNat - 48 = n := by
  have hlow : low ≤ c ↔ low.toNat ≤ c.toNat := Char.le_def
  have hhigh : c ≤ high ↔ c.toNat ≤ high.toNat := Char.le_def
  rw [digitFrom, Option.ite_none_right_eq_some, Bool.and_eq_true, decide_eq_true_eq,
    decide_eq_true_eq, hlow, hhigh, and_assoc, Option.some.injEq]

theorem digits_of_digitFrom {low high c : Char} {n : Nat} (hlow : 48 ≤ low.toNat)
    (hhigh : high.toNat ≤ 57) (h : digitFrom low high c = some n) :
    n < 10 ∧ digits n = [c] := by
  obtain ⟨hfirst, hlast, rfl⟩ := digitFrom_eq_some_iff.mp h
  have hdigit : Text.isDigit c = true := Text.isDigit_iff.mpr (by omega)
  exact digits_of_isDigit hdigit

theorem digits_of_digitFrom_map {low high c : Char} {cs rest : List Char} {n : Nat}
    (hlow : 48 ≤ low.toNat) (hhigh : high.toNat ≤ 57)
    (h : (digitFrom low high c).map (·, cs) = some (n, rest)) :
    cs = rest ∧ n < 10 ∧ digits n = [c] := by
  obtain ⟨units, hunits, heq⟩ := Option.map_eq_some_iff.mp h
  obtain ⟨rfl, hrest⟩ := Prod.mk.inj heq
  exact ⟨hrest, digits_of_digitFrom hlow hhigh hunits⟩

/-- A plain character that is a digit of some script is one of plain text. -/
theorem digitValue?_eq_some_iff {c : Char} {n : Nat} (hascii : c.toNat < 128) :
    Text.digitValue? c = some n ↔ Text.isDigit c = true ∧ n = c.toNat - 48 := by
  constructor
  · intro h
    have hscript : Text.isDecimalDigit c = true := by rw [Text.isDecimalDigit, h]; rfl
    have hdigit : Text.isDigit c = true := by
      rcases Text.isDigit_or_le_of_isDecimalDigit hscript with hdigit | hfar
      · exact hdigit
      · omega
    have hvalue := Text.digitValue?_of_isDigit hdigit
    exact ⟨hdigit, Option.some.inj (h.symm.trans hvalue)⟩
  · intro h
    obtain ⟨hdigit, rfl⟩ := h
    exact Text.digitValue?_of_isDigit hdigit

theorem mapM_digitValue?_eq_some_iff {cs : List Char} {values : List Nat}
    (hascii : ∀ c ∈ cs, c.toNat < 128) :
    cs.mapM Text.digitValue? = some values ↔
      (∀ c ∈ cs, Text.isDigit c = true) ∧ values = cs.map fun c => c.toNat - 48 := by
  induction cs generalizing values with
  | nil =>
    constructor
    · intro h
      exact ⟨nofun, (Option.some.inj h).symm⟩
    · intro h
      rw [h.2]
      rfl
  | cons c rest ih =>
    obtain ⟨hc, hrest⟩ := List.forall_mem_cons.mp hascii
    rw [List.mapM_cons, Option.bind_eq_bind, Option.bind_eq_some_iff, List.forall_mem_cons,
      List.map_cons]
    constructor
    · intro h
      obtain ⟨value, hvalue, h⟩ := h
      obtain ⟨others, hothers, heq⟩ := Option.bind_eq_some_iff.mp h
      obtain ⟨hdigit, rfl⟩ := (digitValue?_eq_some_iff hc).mp hvalue
      obtain ⟨hdigits, rfl⟩ := (ih hrest).mp hothers
      exact ⟨⟨hdigit, hdigits⟩, (Option.some.inj heq).symm⟩
    · intro h
      obtain ⟨⟨hdigit, hdigits⟩, rfl⟩ := h
      have hvalue := (digitValue?_eq_some_iff hc).mpr ⟨hdigit, rfl⟩
      have hothers := (ih hrest).mpr ⟨hdigits, rfl⟩
      exact ⟨_, hvalue, Option.bind_eq_some_iff.mpr ⟨_, hothers, rfl⟩⟩

theorem exists_of_readYear {cs rest : List Char} {year : Nat}
    (hascii : ∀ c ∈ cs, c.toNat < 128) (h : readYear cs = some (year, rest)) :
    ∃ run : DigitRun, cs = run.chars ++ rest ∧ run.chars.length = 4 ∧ run.value = year := by
  unfold readYear at h
  split at h
  next a b c d others =>
    obtain ⟨values, hvalues, heq⟩ := Option.bind_eq_some_iff.mp h
    obtain ⟨rfl, rfl⟩ := Prod.mk.inj (Option.some.inj heq)
    have hfour : ∀ x ∈ [a, b, c, d], x.toNat < 128 := by
      intro x hx
      exact hascii x (List.mem_append_left others hx)
    obtain ⟨hdigits, rfl⟩ := (mapM_digitValue?_eq_some_iff hfour).mp hvalues
    exact ⟨⟨[a, b, c, d], List.cons_ne_nil _ _, hdigits⟩, rfl, rfl, rfl⟩
  · cases h

theorem readYear_append {run : DigitRun} (hlength : run.chars.length = 4) (rest : List Char) :
    readYear (run.chars ++ rest) = some (run.value, rest) := by
  have hascii : ∀ c ∈ run.chars, c.toNat < 128 := by
    intro c hc
    have hbounds := Text.isDigit_iff.mp (run.isDigit_of_mem c hc)
    omega
  have hvalues := (mapM_digitValue?_eq_some_iff hascii).mpr ⟨run.isDigit_of_mem, rfl⟩
  obtain ⟨a, b, c, d, hchars⟩ := List.length_eq_four.mp hlength
  rw [hchars] at hvalues
  rw [DigitRun.value, hchars, List.cons_append, List.cons_append, List.cons_append,
    List.cons_append, List.nil_append, readYear, hvalues]
  rfl

theorem exists_of_readMonth {cs rest : List Char} {month : Nat}
    (h : readMonth cs = some (month, rest)) :
    ∃ spelled, cs = spelled ++ rest ∧ Writes ['0'] month spelled := by
  unfold readMonth at h
  split at h
  next c others =>
    have hone : 1 < 10 ∧ digits 1 = ['1'] := ⟨by omega, digits_of_lt (by omega)⟩
    split at h
    next units hunits =>
      obtain ⟨rfl, rfl⟩ := Prod.mk.inj (Option.some.inj h)
      have hunits := digits_of_digitFrom (by decide) (by decide) hunits
      exact ⟨['1', c], rfl, writes_pair (by omega) hone hunits⟩
    next =>
      obtain ⟨rfl, rfl⟩ := Prod.mk.inj (Option.some.inj h)
      exact ⟨['1'], rfl, hone.2 ▸ .plain⟩
  next c others =>
    obtain ⟨rfl, hten, hc⟩ := digits_of_digitFrom_map (by decide) (by decide) h
    exact ⟨['0', c], rfl, hc ▸ .behind (by simp) hten⟩
  next c others _ _ =>
    obtain ⟨rfl, _, hc⟩ := digits_of_digitFrom_map (by decide) (by decide) h
    exact ⟨[c], rfl, hc ▸ .plain⟩
  · cases h

/-- A month is read whole in front of a hyphen: one digit is not taken for the start of two. -/
theorem readMonth_append {month : Nat} {spelled : List Char} (h : Writes ['0'] month spelled)
    (hfirst : 1 ≤ month) (hlast : month ≤ 12) (rest : List Char) :
    readMonth (spelled ++ '-' :: rest) = some (month, '-' :: rest) := by
  cases h with
  | plain =>
    by_cases hten : month < 10
    · rw [digits_of_lt hten]
      interval_cases month <;> rfl
    · rw [digits_of_two (by omega) (by omega)]
      interval_cases month <;> rfl
  | behind hlead hten =>
    obtain rfl := List.mem_singleton.mp hlead
    rw [digits_of_lt hten]
    interval_cases month <;> rfl

theorem exists_of_readDay {cs rest : List Char} {day : Nat} (hascii : ∀ c ∈ cs, c.toNat < 128)
    (h : readDay cs = some (day, rest)) :
    ∃ spelled, cs = spelled ++ rest ∧ Writes ['0', ' '] day spelled := by
  unfold readDay at h
  split at h
  next c others =>
    have hthree : 3 < 10 ∧ digits 3 = ['3'] := ⟨by omega, digits_of_lt (by omega)⟩
    split at h
    next units hunits =>
      obtain ⟨rfl, rfl⟩ := Prod.mk.inj (Option.some.inj h)
      have hunits := digits_of_digitFrom (by decide) (by decide) hunits
      exact ⟨['3', c], rfl, writes_pair (by omega) hthree hunits⟩
    next =>
      obtain ⟨rfl, rfl⟩ := Prod.mk.inj (Option.some.inj h)
      exact ⟨['3'], rfl, hthree.2 ▸ .plain⟩
  next c others =>
    obtain ⟨rfl, hten, hc⟩ := digits_of_digitFrom_map (by decide) (by decide) h
    exact ⟨['0', c], rfl, hc ▸ .behind (by simp) hten⟩
  next c others =>
    obtain ⟨rfl, hten, hc⟩ := digits_of_digitFrom_map (by decide) (by decide) h
    exact ⟨[' ', c], rfl, hc ▸ .behind (by simp) hten⟩
  next tens c others _ _ _ =>
    split at h
    next t units htens hunits =>
      obtain ⟨rfl, rfl⟩ := Prod.mk.inj (Option.some.inj h)
      have hbounds := digitFrom_eq_some_iff.mp htens
      have hpos : 0 < t := by
        have hone : '1'.toNat = 49 := rfl
        omega
      have htens := digits_of_digitFrom (by decide) (by decide) htens
      obtain ⟨hdigit, rfl⟩ := (digitValue?_eq_some_iff (hascii c (by simp))).mp hunits
      exact ⟨[tens, c], rfl, writes_pair hpos htens (digits_of_isDigit hdigit)⟩
    next =>
      obtain ⟨rfl, _, htens⟩ := digits_of_digitFrom_map (by decide) (by decide) h
      exact ⟨[tens], rfl, htens ▸ .plain⟩
  next c =>
    obtain ⟨rfl, _, hc⟩ := digits_of_digitFrom_map (by decide) (by decide) h
    exact ⟨[c], rfl, hc ▸ .plain⟩
  · cases h

theorem readDay_spelled {day : Nat} {spelled : List Char} (h : Writes ['0', ' '] day spelled)
    (hfirst : 1 ≤ day) (hlast : day ≤ 31) : readDay spelled = some (day, []) := by
  cases h with
  | plain =>
    by_cases hten : day < 10
    · rw [digits_of_lt hten]
      interval_cases day <;> rfl
    · rw [digits_of_two (by omega) (by omega)]
      interval_cases day <;> rfl
  | behind hlead hten =>
    rw [digits_of_lt hten]
    rcases List.mem_pair.mp hlead with rfl | rfl
    · interval_cases day <;> rfl
    · interval_cases day <;> rfl

theorem eq_of_afterHyphen {cs rest : List Char} (h : afterHyphen cs = some rest) :
    cs = '-' :: rest := by
  unfold afterHyphen at h
  split at h
  · rw [Option.some.inj h]
  · cases h

theorem read?_of_isWritten {s : String} {d : Date} (hwritten : d.IsWritten s.toList)
    (h : d.IsGregorian) : read? s = some d := by
  obtain ⟨year, month, day, hcs, hlength, hyear, hmonth, hday⟩ := hwritten
  have hreadMonth := readMonth_append hmonth h.month.1 h.month.2 day
  have hreadDay := readDay_spelled hday h.day.1 h.day.2
  have hreal := isReal_iff_isGregorian.mpr h
  simp only [read?, hcs, readChars, readYear_append hlength, hyear, Option.bind_eq_bind,
    Option.bind_some, afterHyphen, hreadMonth, hreadDay, List.isEmpty_nil, hreal, Bool.and_self,
    if_true]

theorem isWritten_of_read? {s : String} (hascii : ∀ c ∈ s.toList, c.toNat < 128) {d : Date}
    (h : read? s = some d) : d.IsWritten s.toList ∧ d.IsGregorian := by
  obtain ⟨⟨year, afterYear⟩, hreadYear, h⟩ := Option.bind_eq_some_iff.mp h
  obtain ⟨⟨month, afterMonth⟩, hnext, h⟩ := Option.bind_eq_some_iff.mp h
  obtain ⟨⟨day, afterDay⟩, hlast, h⟩ := Option.bind_eq_some_iff.mp h
  obtain ⟨monthPart, hfirst, hreadMonth⟩ := Option.bind_eq_some_iff.mp hnext
  obtain ⟨dayPart, hsecond, hreadDay⟩ := Option.bind_eq_some_iff.mp hlast
  simp only [Option.ite_none_right_eq_some, Bool.and_eq_true, List.isEmpty_iff,
    Option.some.injEq] at h
  obtain ⟨⟨rfl, hreal⟩, rfl⟩ := h
  obtain ⟨run, hrun, hlength, hvalue⟩ := exists_of_readYear hascii hreadYear
  obtain rfl := eq_of_afterHyphen hfirst
  obtain ⟨spelledMonth, hspelledMonth, hmonth⟩ := exists_of_readMonth hreadMonth
  obtain rfl := eq_of_afterHyphen hsecond
  have hplain : ∀ c ∈ dayPart, c.toNat < 128 := by
    intro c hc
    apply hascii
    rw [hrun, hspelledMonth]
    simp [hc]
  obtain ⟨spelledDay, hspelledDay, hday⟩ := exists_of_readDay hplain hreadDay
  rw [List.append_nil] at hspelledDay
  refine ⟨⟨run, spelledMonth, spelledDay, ?_, hlength, hvalue, hmonth, hday⟩,
    isReal_iff_isGregorian.mp hreal⟩
  rw [hrun, hspelledMonth, hspelledDay]

theorem toList_text (d : Date) :
    d.text.toList = (DigitRun.padded 4 d.year).chars ++
      '-' :: ((DigitRun.padded 2 d.month).chars ++ '-' :: (DigitRun.padded 2 d.day).chars) := by
  simp only [text, String.toList_append, DigitRun.toList_padded, List.append_assoc]
  rfl

theorem IsGregorian.lengths {d : Date} (h : d.IsGregorian) :
    (DigitRun.padded 4 d.year).chars.length = 4 ∧ (DigitRun.padded 2 d.month).chars.length = 2 ∧
      (DigitRun.padded 2 d.day).chars.length = 2 := by
  have hfour : powerOfTen 4 = 10000 := rfl
  have htwo : powerOfTen 2 = 100 := rfl
  obtain ⟨hyear, hmonth, hday, _, _, _⟩ := h
  refine ⟨DigitRun.length_padded ?_ ?_, DigitRun.length_padded ?_ ?_,
    DigitRun.length_padded ?_ ?_⟩
  all_goals omega

theorem IsGregorian.isWritten_text {d : Date} (h : d.IsGregorian) :
    d.IsWritten d.text.toList := by
  obtain ⟨hlength, _, _⟩ := h.lengths
  have hmonth : d.month < 100 := by
    have hlast := h.month.2
    omega
  have hday : d.day < 100 := by
    have hlast := h.day.2
    omega
  exact ⟨_, _, _, d.toList_text, hlength, DigitRun.value_padded 4 d.year,
    writes_padded (by simp) hmonth, writes_padded (by simp) hday⟩

theorem text_lt_text_iff {a b : Date} (ha : a.IsGregorian) (hb : b.IsGregorian) :
    a.text < b.text ↔ a < b := by
  obtain ⟨hyear, hmonth, hday⟩ := ha.lengths
  obtain ⟨hyear', hmonth', hday'⟩ := hb.lengths
  have hyears := hyear.trans hyear'.symm
  have hmonths := hmonth.trans hmonth'.symm
  have hdays := hday.trans hday'.symm
  have hhyphen : ∀ xs ys : List Char, '-' :: xs < '-' :: ys ↔ xs < ys := by
    intro xs ys
    rw [List.cons_lt_cons_iff]
    simp
  rw [String.lt_iff_toList_lt, toList_text, toList_text, append_lt_append_iff hyears, hhyphen,
    append_lt_append_iff hmonths, hhyphen, DigitRun.chars_lt_iff hyears,
    DigitRun.chars_eq_iff hyears, DigitRun.chars_lt_iff hmonths, DigitRun.chars_eq_iff hmonths,
    DigitRun.chars_lt_iff hdays]
  have horder : a < b ↔ ¬b ≤ a := not_le.symm
  simp only [DigitRun.value_padded]
  rw [horder, le_iff]
  omega

/-- A text of plain characters is read as a date exactly if it writes that date and the date is one
of the calendar. So each date of the calendar is read back from its text, and the dates are ordered
as their texts are. -/
theorem reads_written_dates :
    (∀ s : String, (∀ c ∈ s.toList, c.toNat < 128) → ∀ d,
      read? s = some d ↔ d.IsWritten s.toList ∧ d.IsGregorian) ∧
    (∀ d : Date, d.IsGregorian → read? d.text = some d) ∧
    ∀ a b : Date, a.IsGregorian → b.IsGregorian → (a ≤ b ↔ a.text ≤ b.text) := by
  refine ⟨?_, ?_, ?_⟩
  · intro s hascii d
    exact ⟨isWritten_of_read? hascii, fun h => read?_of_isWritten h.1 h.2⟩
  · intro d h
    exact read?_of_isWritten h.isWritten_text h
  · intro a b ha hb
    rw [← not_lt, ← not_lt, text_lt_text_iff hb ha]

theorem reads_written_dates_of_leap_year :
    read? "2000-2- 9" = some ⟨2000, 2, 9⟩ ∧ read? (text ⟨2000, 2, 29⟩) = some ⟨2000, 2, 29⟩ ∧
      text ⟨2000, 2, 29⟩ ≤ text ⟨2000, 10, 1⟩ := by
  have hwritten : IsWritten ⟨2000, 2, 9⟩ "2000-2- 9".toList := by
    have htwo : digits 2 = ['2'] := digits_of_lt (by omega)
    have hnine : digits 9 = ['9'] := digits_of_lt (by omega)
    refine ⟨.padded 4 2000, ['2'], [' ', '9'], by decide +kernel, by decide +kernel,
      DigitRun.value_padded 4 2000, htwo ▸ .plain, hnine ▸ .behind (by simp) (by decide)⟩
  have hninth : IsGregorian ⟨2000, 2, 9⟩ := isReal_iff_isGregorian.mp (by decide)
  have hleap : IsGregorian ⟨2000, 2, 29⟩ := isReal_iff_isGregorian.mp (by decide)
  have hlater : IsGregorian ⟨2000, 10, 1⟩ := isReal_iff_isGregorian.mp (by decide)
  have hascii : ∀ c ∈ "2000-2- 9".toList, c.toNat < 128 := by
    have hall : ("2000-2- 9".toList.all fun c => decide (c.toNat < 128)) = true := by decide
    intro c hc
    exact of_decide_eq_true (List.all_eq_true.mp hall c hc)
  obtain ⟨hreads, hround, horder⟩ := reads_written_dates
  exact ⟨(hreads _ hascii _).mpr ⟨hwritten, hninth⟩, hround _ hleap,
    (horder _ _ hleap hlater).mp (by decide)⟩

end Date

end ReleaseLines
