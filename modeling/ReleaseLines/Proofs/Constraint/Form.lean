import ReleaseLines.Proofs.Constraint.Recognition

namespace ReleaseLines

namespace Segment

theorem afterPatch_patchChars (patch : Option DigitRun) :
    afterPatch (Spelling.patchChars patch) = .ok [] := by
  cases patch with
  | none => rfl
  | some run =>
    have hall : run.chars.takeWhile Text.isDigit = run.chars :=
      List.takeWhile_eq_self_iff.mpr run.isDigit_of_mem
    have hnone : run.chars.dropWhile Text.isDigit = [] :=
      List.dropWhile_eq_nil_iff.mpr run.isDigit_of_mem
    simp only [Spelling.patchChars, afterPatch, hall, hnone,
      List.isEmpty_eq_false_iff.mpr run.ne_nil, Bool.false_eq_true, if_false]

theorem exists_of_afterPatch_eq_ok_nil {cs : List Char} (h : afterPatch cs = .ok []) :
    ∃ patch, cs = Spelling.patchChars patch := by
  unfold afterPatch at h
  split at h
  next rest =>
    split at h
    · cases h
    next hne =>
      obtain ⟨run, hrun⟩ := DigitRun.exists_of_takeWhile (mt List.isEmpty_iff.mpr hne)
      have hnil : rest.dropWhile Text.isDigit = [] := Except.ok.inj h
      refine ⟨some run, ?_⟩
      rw [Spelling.patchChars, hrun, List.takeWhile_eq_self_iff.mpr (List.dropWhile_eq_nil_iff.mp hnil)]
  next =>
    cases h
    exact ⟨none, rfl⟩

theorem scanVersion_chars (version : Spelling) :
    scanVersion version.chars = .ok (version.major.chars, version.minor.chars) := by
  have hminor := Text.takeWhile_run version.minor.isDigit_of_mem
    (Spelling.takeWhile_patchChars version.patch)
  have hpatch := Text.dropWhile_run version.minor.isDigit_of_mem
    (Spelling.takeWhile_patchChars version.patch)
  simp only [scanVersion, version.takeWhile_chars, version.dropWhile_chars, hminor, hpatch,
    afterPatch_patchChars, List.isEmpty_eq_false_iff.mpr version.major.ne_nil,
    List.isEmpty_eq_false_iff.mpr version.minor.ne_nil, Bool.false_eq_true, if_false]
  rfl

theorem exists_of_scanVersion_eq_ok {cs a b : List Char} (h : scanVersion cs = .ok (a, b)) :
    ∃ version : Spelling, version.major.chars = a ∧ version.minor.chars = b ∧
      cs = version.chars := by
  unfold scanVersion at h
  simp only at h
  split at h
  · cases h
  next hmajor =>
    split at h
    next tail htail =>
      split at h
      · cases h
      next hminor =>
        cases hp : afterPatch (tail.dropWhile Text.isDigit) with
        | error flaw => simp [hp, bind, Except.bind] at h
        | ok left =>
          simp only [hp, bind, Except.bind] at h
          split at h
          next hleft =>
            obtain ⟨rfl, rfl⟩ := Prod.mk.inj (Except.ok.inj h)
            rw [List.isEmpty_iff.mp hleft] at hp
            obtain ⟨patch, hpatch⟩ := exists_of_afterPatch_eq_ok_nil hp
            obtain ⟨major, hm⟩ := DigitRun.exists_of_takeWhile (mt List.isEmpty_iff.mpr hmajor)
            obtain ⟨minor, hn⟩ := DigitRun.exists_of_takeWhile (mt List.isEmpty_iff.mpr hminor)
            refine ⟨⟨major, minor, patch⟩, hm, hn, ?_⟩
            rw [Spelling.chars, hm, hn, ← hpatch, List.takeWhile_append_dropWhile, ← htail,
              List.takeWhile_append_dropWhile]
          · cases h
    next => cases h

theorem scan_comparison (operator : Operator) {blanks : List Char} (version : Spelling)
    (h : ∀ c ∈ blanks, Text.isBlank c = true) :
    scan (operator.symbol.toList ++ (blanks ++ version.chars)) =
      .ok (operator, version.major.chars, version.minor.chars) := by
  have hnil : version.chars.takeWhile Text.isBlank = [] :=
    version.major.takeWhile_blank _ fun _ => id
  have hhead : (blanks ++ version.chars).head? ≠ some '=' :=
    version.major.head?_ne_equals _ h (by decide)
  rw [scan, Operator.scan?_symbol_append hhead]
  simp only [Text.dropWhile_run h hnil, scanVersion_chars]
  rfl

theorem exists_of_scan_eq_ok {cs a b : List Char} {operator : Operator}
    (h : scan cs = .ok (operator, a, b)) :
    ∃ (blanks : List Char) (version : Spelling), (∀ c ∈ blanks, Text.isBlank c = true) ∧
      version.major.chars = a ∧ version.minor.chars = b ∧
      cs = operator.symbol.toList ++ (blanks ++ version.chars) := by
  unfold scan at h
  split at h
  · cases h
  next found rest hop =>
    cases hv : scanVersion (rest.dropWhile Text.isBlank) with
    | error flaw => simp [hv, Except.map] at h
    | ok numbers =>
      simp only [hv, Except.map, Except.ok.injEq, Prod.mk.injEq] at h
      obtain ⟨rfl, rfl⟩ := h
      obtain ⟨version, hmajor, hminor, hchars⟩ := exists_of_scanVersion_eq_ok hv
      refine ⟨rest.takeWhile Text.isBlank, version, fun _ => List.mem_takeWhile_imp, hmajor, hminor, ?_⟩
      rw [← hchars, List.takeWhile_append_dropWhile]
      exact Operator.eq_of_scan?_eq_some hop

end Segment

namespace Token

/-- The form that an operator and what follows it make. -/
def formAfter? (operator : Operator) (rest : List Char) : Option Form :=
  match operator with
  | .caret => (patched? rest).map fun version => .majorRange version.1 version.2
  | .compatible => (patched? rest).map fun version => .minorRange version.1 version.2
  | .eq =>
    match wildcard? rest with
    | some version => some (.minorRange version.1 version.2)
    | none => plain? operator.symbol.toList rest
  | operator => plain? operator.symbol.toList rest

theorem form?_eq_formAfter? (cs : List Char) :
    form? cs = (Operator.scan? cs).bind fun found => formAfter? found.1 found.2 := by
  unfold Operator.scan?
  split
  case h_3 rest =>
    cases hwildcard : wildcard? rest <;> simp [form?, formAfter?, Operator.symbol, hwildcard]
  case h_9 =>
    unfold form?
    split <;> simp_all
  all_goals simp [form?, formAfter?, Operator.symbol]

/-- The form of a comparison whose blanks are plain. -/
def formOf (operator : Operator) (version : Spelling) : Form :=
  match operator with
  | .caret => .majorRange version.major.chars version.minor.chars
  | .compatible => .minorRange version.major.chars version.minor.chars
  | operator => .plain operator.symbol.toList version.major.chars version.minor.chars

theorem exists_of_plain?_eq_some {operator rest : List Char} {form : Form}
    (h : plain? operator rest = some form) : ∃ numbers, patched? rest = some numbers := by
  obtain ⟨numbers, hnumbers, _⟩ := Option.map_eq_some_iff.mp h
  exact ⟨numbers, hnumbers⟩

/-- Only a version with an optional patch, or a wildcard after `==`, makes a form. -/
theorem exists_of_formAfter?_eq_some {operator : Operator} {rest : List Char} {form : Form}
    (h : formAfter? operator rest = some form) :
    (∃ numbers, patched? rest = some numbers) ∨
      operator = .eq ∧ ∃ numbers, wildcard? rest = some numbers := by
  cases operator with
  | caret | compatible =>
    obtain ⟨numbers, hnumbers, _⟩ := Option.map_eq_some_iff.mp h
    exact .inl ⟨numbers, hnumbers⟩
  | eq =>
    cases hw : wildcard? rest with
    | some numbers => exact .inr ⟨rfl, numbers, rfl⟩
    | none =>
      simp only [formAfter?, hw] at h
      exact .inl (exists_of_plain?_eq_some h)
  | _ => exact .inl (exists_of_plain?_eq_some h)

/-- A blank that is not plain keeps a version from being recognised. -/
theorem patched?_eq_none {blanks : List Char} (rest : List Char)
    (hblank : ∀ c ∈ blanks, Text.isBlank c = true) (hplain : blanks.all Text.isPlainBlank = false) :
    majorMinor? ((blanks ++ rest).dropWhile Text.isPlainBlank) = none := by
  induction blanks with
  | nil => simp at hplain
  | cons c others ih =>
    cases hc : Text.isPlainBlank c with
    | true =>
      rw [List.cons_append, List.dropWhile_cons_of_pos hc]
      refine ih (fun d hd => hblank d (List.mem_cons_of_mem c hd)) ?_
      simpa [hc] using hplain
    | false =>
      have hb := hblank c (by simp)
      have hdigit : Text.isDigit c = false := by
        by_contra hd
        rw [Text.isBlank_of_isDigit (by simpa using hd)] at hb
        exact Bool.false_ne_true hb
      have hdot : c ≠ '.' := by
        rintro rfl
        exact absurd hb (by decide)
      rw [List.cons_append, List.dropWhile_cons_of_neg (by simp [hc])]
      simp [majorMinor?, hdigit, hdot]

end Token

namespace Clause

/-- The form that the normalization sees in a part. -/
def form? : Clause → Option Token.Form
  | comparison operator blanks version _ =>
    if blanks.all Text.isPlainBlank then some (Token.formOf operator version) else none
  | wildcard _ major minor _ => some (.minorRange major.chars minor.chars)

theorem form?_chars (clause : Clause) : Token.form? clause.chars = clause.form? := by
  rw [Token.form?_eq_formAfter?]
  cases clause with
  | wildcard blanks major minor plain =>
    have hscan : Operator.scan? (wildcard blanks major minor plain).chars =
        some (.eq, blanks ++ (major.chars ++ '.' :: (minor.chars ++ ['.', '*']))) :=
      Operator.scan?_symbol_append (major.head?_ne_equals _ plain (by decide))
    rw [hscan, Option.bind_some, Token.formAfter?, Token.wildcard?_append major minor plain]
    rfl
  | comparison operator blanks version blank =>
    have hscan : Operator.scan? (comparison operator blanks version blank).chars =
        some (operator, blanks ++ version.chars) :=
      Operator.scan?_symbol_append (version.major.head?_ne_equals _ blank (by decide))
    rw [hscan, Option.bind_some, form?]
    cases hp : blanks.all Text.isPlainBlank with
    | true =>
      have plain := List.all_eq_true.mp hp
      cases operator <;>
        simp [Token.formAfter?, Token.formOf, Token.plain?, Token.patched?_append version plain,
          Token.wildcard?_version version plain]
    | false =>
      have hnone := Token.patched?_eq_none version.chars blank hp
      cases operator <;>
        simp [Token.formAfter?, Token.plain?, Token.patched?, Token.wildcard?, hnone]

theorem exists_of_form?_eq_some {cs : List Char} {form : Token.Form}
    (h : Token.form? cs = some form) : ∃ clause : Clause, clause.chars = cs := by
  rw [Token.form?_eq_formAfter?, Option.bind_eq_some_iff] at h
  obtain ⟨⟨operator, rest⟩, hscan, hform⟩ := h
  simp only at hform
  have hcs := Operator.eq_of_scan?_eq_some hscan
  rcases Token.exists_of_formAfter?_eq_some hform with ⟨numbers, hnumbers⟩ | ⟨rfl, numbers, hnumbers⟩
  · obtain ⟨blanks, version, plain, _, _, hrest⟩ := Token.exists_of_patched?_eq_some hnumbers
    refine ⟨comparison operator blanks version fun c hc => Text.isBlank_of_isPlainBlank (plain c hc), ?_⟩
    rw [chars, hcs, hrest]
  · obtain ⟨blanks, major, minor, plain, _, _, hrest⟩ := Token.exists_of_wildcard?_eq_some hnumbers
    refine ⟨wildcard blanks major minor plain, ?_⟩
    rw [chars, hcs, hrest]

end Clause

end ReleaseLines
