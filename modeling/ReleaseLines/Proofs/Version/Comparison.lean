import ReleaseLines.Proofs.Except
import ReleaseLines.Proofs.Text.Classes
import ReleaseLines.Proofs.Text.Trim
import ReleaseLines.Proofs.Version.Order

namespace ReleaseLines

namespace Version

/-- A text that is read as some line. -/
def NamesLine (text : String) : Prop := ∃ v, read text = .ok v

variable {a b c : String} {v w : Version}

theorem compareTexts_of_read (ha : read a = .ok v) (hb : read b = .ok w) :
    compareTexts a b = .ok (v.order w) := by
  rw [compareTexts, ha, hb]
  rfl

theorem sameMajor_of_read (ha : read a = .ok v) (hb : read b = .ok w) :
    sameMajor a b = .ok (v.major == w.major) := by
  rw [sameMajor, ha, hb]
  rfl

theorem sameLine_of_read (ha : read a = .ok v) (hb : read b = .ok w) :
    sameLine a b = .ok (v == w) := by
  rw [sameLine, ha, hb]
  rfl

theorem isAtLeast_of_read (ha : read a = .ok v) (hb : read b = .ok w) :
    isAtLeast a b = (v.order w).isGE := by
  have hle : isAtLeast a b = (w.order v).isLE := by
    rw [isAtLeast, ha, hb]
    exact Bool.decide_eq_true
  rw [hle, order_swap v w, Ordering.isLE_swap]

theorem namesLine_of_compareTexts {ordering : Ordering} (h : compareTexts a b = .ok ordering) :
    NamesLine a ∧ NamesLine b := by
  obtain ⟨v, ha, h⟩ := except_bind_eq_ok_iff.mp h
  obtain ⟨w, hb, _⟩ := except_bind_eq_ok_iff.mp h
  exact ⟨⟨v, ha⟩, w, hb⟩

theorem exists_compareTexts_eq_error_iff :
    (∃ problem, compareTexts a b = .error problem) ↔ ¬NamesLine a ∨ ¬NamesLine b := by
  rw [← not_and_or]
  cases hcompare : compareTexts a b with
  | error problem =>
    refine iff_of_true ⟨problem, rfl⟩ ?_
    intro h
    obtain ⟨⟨v, ha⟩, w, hb⟩ := h
    rw [compareTexts_of_read ha hb] at hcompare
    cases hcompare
  | ok ordering => exact iff_of_false nofun (not_not_intro (namesLine_of_compareTexts hcompare))

theorem isAtLeast_of_not_namesLine (h : ¬NamesLine a ∨ ¬NamesLine b) : isAtLeast a b = false := by
  unfold isAtLeast
  split
  next v w ha hb =>
    rcases h with h | h
    · exact absurd ⟨v, ha⟩ h
    · exact absurd ⟨w, hb⟩ h
  next => rfl

/-- Both texts name lines, and that of the first is not above that of the second. -/
def AtMost (a b : String) : Prop :=
  ∃ ordering, compareTexts a b = .ok ordering ∧ ordering.isLE = true

theorem AtMost.trans (hab : AtMost a b) (hbc : AtMost b c) : AtMost a c := by
  obtain ⟨first, hfirst, hle⟩ := hab
  obtain ⟨second, hsecond, hle'⟩ := hbc
  obtain ⟨⟨u, ha⟩, v, hb⟩ := namesLine_of_compareTexts hfirst
  obtain ⟨_, w, hc⟩ := namesLine_of_compareTexts hsecond
  rw [compareTexts_of_read ha hb, Except.ok.injEq] at hfirst
  rw [compareTexts_of_read hb hc, Except.ok.injEq] at hsecond
  rw [← hfirst] at hle
  rw [← hsecond] at hle'
  exact ⟨u.order w, compareTexts_of_read ha hc, Std.TransCmp.isLE_trans hle hle'⟩

theorem atMost_or_atMost (ha : NamesLine a) (hb : NamesLine b) : AtMost a b ∨ AtMost b a := by
  obtain ⟨v, ha⟩ := ha
  obtain ⟨w, hb⟩ := hb
  by_cases hle : (v.order w).isLE = true
  · exact .inl ⟨_, compareTexts_of_read ha hb, hle⟩
  · refine .inr ⟨_, compareTexts_of_read hb ha, ?_⟩
    rw [order_swap v w]
    cases hcase : v.order w with
    | lt => simp [hcase] at hle
    | eq => rfl
    | gt => rfl

/-- Two texts that compare alike with every text, whichever of the two sides they stand on. -/
structure ComparesAs (a a' : String) : Prop where
  compareTexts : ∀ b, compareTexts a b = compareTexts a' b ∧ compareTexts b a = compareTexts b a'
  sameMajor : ∀ b, sameMajor a b = sameMajor a' b ∧ sameMajor b a = sameMajor b a'
  sameLine : ∀ b, sameLine a b = sameLine a' b ∧ sameLine b a = sameLine b a'
  isAtLeast : ∀ b, isAtLeast a b = isAtLeast a' b ∧ isAtLeast b a = isAtLeast b a'

theorem comparesAs_of_read {a a' : String} (h : read a = read a') : ComparesAs a a' := by
  constructor
  all_goals intro b
  · rw [Version.compareTexts, Version.compareTexts, Version.compareTexts, Version.compareTexts, h]
    exact ⟨rfl, rfl⟩
  · rw [Version.sameMajor, Version.sameMajor, Version.sameMajor, Version.sameMajor, h]
    exact ⟨rfl, rfl⟩
  · rw [Version.sameLine, Version.sameLine, Version.sameLine, Version.sameLine, h]
    exact ⟨rfl, rfl⟩
  · rw [Version.isAtLeast, Version.isAtLeast, Version.isAtLeast, Version.isAtLeast, h]
    exact ⟨rfl, rfl⟩

/-- Two numbers in digits of any script with a dot between. -/
def IsNumbered (cs : List Char) : Prop :=
  ∃ major minor : List Char, cs = major ++ '.' :: minor ∧ major ≠ [] ∧ minor ≠ [] ∧
    ∀ c ∈ major ++ minor, Text.isDecimalDigit c = true

namespace IsNumbered

variable {cs : List Char}

theorem isBlank_of_mem (h : IsNumbered cs) : ∀ c ∈ cs, Text.isBlank c = false := by
  obtain ⟨major, minor, rfl, _, _, hdigits⟩ := h
  intro c hc
  by_cases hdot : c = '.'
  · rw [hdot]
    rfl
  · have hmem : c ∈ major ++ minor := by
      rw [List.mem_append, List.mem_cons] at hc
      rw [List.mem_append]
      exact hc.imp_right fun h => h.resolve_left hdot
    exact Text.isBlank_of_isDecimalDigit (hdigits c hmem)

theorem trim_eq (h : IsNumbered cs) : Text.trim cs = cs := by
  apply Text.trim_eq_self
  · intro c hc
    exact h.isBlank_of_mem c (List.mem_of_mem_head? hc)
  · intro c hc
    exact h.isBlank_of_mem c (List.mem_of_getLast? hc)

/-- Nothing but blanks at the end is trimmed off what follows two numbers and a dot. -/
theorem exists_trim_append (h : IsNumbered cs) (patch : List Char) :
    ∃ rest, Text.trim (cs ++ '.' :: patch) = cs ++ '.' :: rest := by
  have hne : cs ≠ [] := by
    obtain ⟨major, minor, rfl, hmajor, _⟩ := h
    exact List.append_ne_nil_of_left_ne_nil hmajor _
  have hhead : ∀ patch c, (cs ++ '.' :: patch).head? = some c → Text.isBlank c = false := by
    intro patch c hc
    rw [List.head?_append_of_ne_nil _ hne] at hc
    exact h.isBlank_of_mem c (List.mem_of_mem_head? hc)
  induction patch using List.reverseRecOn with
  | nil =>
    refine ⟨[], Text.trim_eq_self (hhead []) ?_⟩
    intro c hc
    rw [List.getLast?_concat, Option.some.injEq] at hc
    exact hc ▸ rfl
  | append_singleton before c ih =>
    have hassoc : cs ++ '.' :: (before ++ [c]) = (cs ++ '.' :: before) ++ [c] := by
      rw [List.append_assoc, List.cons_append]
    by_cases hblank : Text.isBlank c = true
    · obtain ⟨rest, hrest⟩ := ih
      exact ⟨rest, by rw [hassoc, Text.trim_concat_of_blank _ hblank, hrest]⟩
    · refine ⟨before ++ [c], Text.trim_eq_self (hhead _) ?_⟩
      intro d hd
      rw [hassoc, List.getLast?_concat, Option.some.injEq] at hd
      rw [← hd]
      exact Bool.eq_false_iff.mpr hblank

theorem pieces_eq (h : IsNumbered cs) :
    ∃ major minor, Text.pieces (· == '.') cs = [major, minor] := by
  obtain ⟨major, minor, rfl, _, _, hdigits⟩ := h
  have hdot : ∀ c ∈ major ++ minor, (c == '.') = false := by
    intro c hc
    rw [beq_eq_false_iff_ne]
    rintro rfl
    exact absurd (hdigits _ hc) (by decide)
  refine ⟨major, minor, ?_⟩
  rw [Text.pieces_append_separator _ _ (by rfl),
    Text.pieces_eq_singleton fun c hc => hdot c (List.mem_append_left _ hc),
    Text.pieces_eq_singleton fun c hc => hdot c (List.mem_append_right _ hc),
    List.singleton_append]

/-- Only the two numbers are read, whatever follows them and a dot. -/
theorem read_append {text : String} (h : IsNumbered text.toList) (patch : String) :
    read (text ++ "." ++ patch) = read text := by
  have hchars : (text ++ "." ++ patch).toList = text.toList ++ '.' :: patch.toList := by
    simp
  obtain ⟨rest, htrim⟩ := h.exists_trim_append patch.toList
  obtain ⟨major, minor, hpieces⟩ := h.pieces_eq
  rw [read, read, hchars, htrim, Text.pieces_append_separator _ _ (by rfl), h.trim_eq, hpieces]
  rfl

theorem read_surrounded {text before after : String} (h : IsNumbered text.toList)
    (hbefore : Text.isBlankText before = true) (hafter : Text.isBlankText after = true) :
    read (before ++ text ++ after) = read text := by
  rw [Text.isBlankText, List.all_eq_true] at hbefore hafter
  have htrim : Text.trim (before ++ text ++ after).toList = Text.trim text.toList := by
    rw [String.toList_append, String.toList_append, List.append_assoc,
      Text.trim_surrounded hbefore hafter]
  obtain ⟨major, minor, hpieces⟩ := h.pieces_eq
  rw [read, read, htrim, h.trim_eq, hpieces]

end IsNumbered

/-- Two texts stand in one order by every comparison. -/
structure StandsTo (a b : String) (ordering : Ordering) : Prop where
  forwards : compareTexts a b = .ok ordering
  backwards : compareTexts b a = .ok ordering.swap
  isAtLeast : isAtLeast a b = ordering.isGE
  sameLine : sameLine a b = .ok (ordering == .eq)
  eq_iff : ordering = .eq ↔ read a = read b
  sameMajor : ordering = .eq → sameMajor a b = .ok true

theorem standsTo_of_read (ha : read a = .ok v) (hb : read b = .ok w) :
    StandsTo a b (v.order w) where
  forwards := compareTexts_of_read ha hb
  backwards := by rw [compareTexts_of_read hb ha, order_swap v w]
  isAtLeast := isAtLeast_of_read ha hb
  sameLine := by
    have hline : (v == w) = (v.order w == .eq) := by
      rw [Bool.eq_iff_iff, beq_iff_eq, beq_iff_eq, order_eq_iff]
    rw [sameLine_of_read ha hb, hline]
  eq_iff := by rw [order_eq_iff, ha, hb, Except.ok.injEq]
  sameMajor := by
    intro heq
    rw [sameMajor_of_read ha hb, order_eq_iff.mp heq, beq_self_eq_true]

/-- Texts compare by the lines they name, in one total preorder on which all comparisons agree. A
text that names no line compares with none and is at least none. Blanks around two numbers and
whatever follows them and a dot make no difference. -/
theorem compares_by_line :
    (∀ a b, (∃ problem, compareTexts a b = .error problem) ↔ ¬NamesLine a ∨ ¬NamesLine b) ∧
    (∀ a b, ¬NamesLine a ∨ ¬NamesLine b → isAtLeast a b = false) ∧
    (∀ a b, NamesLine a → NamesLine b → ∃ ordering, StandsTo a b ordering) ∧
    (∀ a b, NamesLine a → NamesLine b → AtMost a b ∨ AtMost b a) ∧
    (∀ a b c, AtMost a b → AtMost b c → AtMost a c) ∧
    ∀ a : String, IsNumbered a.toList →
      (∀ patch, ComparesAs (a ++ "." ++ patch) a) ∧
      ∀ before after, Text.isBlankText before = true → Text.isBlankText after = true →
        ComparesAs (before ++ a ++ after) a := by
  refine ⟨fun a b => exists_compareTexts_eq_error_iff, fun a b => isAtLeast_of_not_namesLine, ?_,
    fun a b => atMost_or_atMost, fun a b c => AtMost.trans, ?_⟩
  · intro a b ha hb
    obtain ⟨v, ha⟩ := ha
    obtain ⟨w, hb⟩ := hb
    exact ⟨v.order w, standsTo_of_read ha hb⟩
  · intro a h
    constructor
    · intro patch
      exact comparesAs_of_read (h.read_append patch)
    · intro before after hbefore hafter
      exact comparesAs_of_read (h.read_surrounded hbefore hafter)

theorem compares_by_line_of_nine_and_ten :
    NamesLine "3.10" ∧ NamesLine "3.9" ∧ ¬NamesLine "3" ∧
      compareTexts "3.10" "3.9" = .ok .gt ∧ compareTexts "3.9" "3.10" = .ok .lt ∧
      isAtLeast "3.10" "3.9" = true ∧ isAtLeast "3" "3.9" = false ∧
      compareTexts "\t3.10\n" "3.9" = .ok .gt := by
  have hcompare : compareTexts "3.10" "3.9" = .ok .gt := by decide +kernel
  have hunread : ¬NamesLine "3" := by
    intro h
    obtain ⟨v, hv⟩ := h
    have herror : read "3" = .error (.notMajorMinor "3") := by decide +kernel
    cases herror.symm.trans hv
  have hnumbered : IsNumbered "3.10".toList := by
    have hdigits : ['3', '1', '0'].all Text.isDecimalDigit = true := by decide
    exact ⟨['3'], ['1', '0'], rfl, nofun, nofun, List.all_eq_true.mp hdigits⟩
  obtain ⟨hten, hnine⟩ := namesLine_of_compareTexts hcompare
  obtain ⟨_, hnever, hread, _, _, hspelled⟩ := compares_by_line
  obtain ⟨ordering, hstands⟩ := hread "3.10" "3.9" hten hnine
  obtain rfl := Except.ok.inj (hcompare.symm.trans hstands.forwards)
  have hsurrounded := (hspelled "3.10" hnumbered).2 "\t" "\n" (by decide) (by decide)
  have hblanks := (hsurrounded.compareTexts "3.9").1
  rw [hcompare] at hblanks
  exact ⟨hten, hnine, hunread, hcompare, hstands.backwards, hstands.isAtLeast,
    hnever "3" "3.9" (.inl hunread), hblanks⟩

end Version

end ReleaseLines
