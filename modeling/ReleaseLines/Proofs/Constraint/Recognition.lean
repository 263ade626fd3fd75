import ReleaseLines.Constraint.Segment
import ReleaseLines.Constraint.Token
import ReleaseLines.Proofs.Constraint.Clause

namespace ReleaseLines

theorem DigitRun.takeWhile_blank {p : Char → Bool} (run : DigitRun) (rest : List Char)
    (h : ∀ c, p c = true → Text.isBlank c = true) : (run.chars ++ rest).takeWhile p = [] := by
  obtain ⟨c, others, hc⟩ := List.exists_cons_of_ne_nil run.ne_nil
  rw [hc, List.cons_append, List.takeWhile_cons_of_neg]
  intro hp
  have hb := h c hp
  rw [Text.isBlank_of_isDigit (run.head_isDigit hc)] at hb
  exact Bool.false_ne_true hb

theorem DigitRun.head?_ne_equals {p : Char → Bool} {blanks : List Char} (run : DigitRun) (rest : List Char)
    (h : ∀ c ∈ blanks, p c = true) (hp : p '=' = false) :
    (blanks ++ (run.chars ++ rest)).head? ≠ some '=' := by
  intro heq
  cases blanks with
  | nil =>
    obtain ⟨c, others, hc⟩ := List.exists_cons_of_ne_nil run.ne_nil
    have hd := run.head_isDigit hc
    have hequals : c = '=' := by simpa [hc] using heq
    exact absurd hd (by simp [hequals, Text.isDigit])
  | cons c others =>
    have hc : c = '=' := by simpa using heq
    exact absurd (h c (by simp)) (by simp [hc, hp])

namespace Spelling

theorem takeWhile_patchChars (patch : Option DigitRun) :
    (patchChars patch).takeWhile Text.isDigit = [] := by
  cases patch <;> rfl

theorem takeWhile_chars (s : Spelling) : s.chars.takeWhile Text.isDigit = s.major.chars :=
  Text.takeWhile_run s.major.isDigit_of_mem rfl

theorem dropWhile_chars (s : Spelling) :
    s.chars.dropWhile Text.isDigit = '.' :: (s.minor.chars ++ patchChars s.patch) :=
  Text.dropWhile_run s.major.isDigit_of_mem rfl

end Spelling

theorem DigitRun.exists_of_takeWhile {cs : List Char} (h : cs.takeWhile Text.isDigit ≠ []) :
    ∃ run : DigitRun, run.chars = cs.takeWhile Text.isDigit :=
  ⟨⟨_, h, fun _ => List.mem_takeWhile_imp⟩, rfl⟩

namespace Operator

theorem scan?_symbol_append {operator : Operator} {rest : List Char}
    (h : rest.head? ≠ some '=') :
    scan? (operator.symbol.toList ++ rest) = some (operator, rest) := by
  cases rest with
  | nil => cases operator <;> rfl
  | cons c rest =>
    have hc : c ≠ '=' := by simpa using h
    cases operator <;> simp [symbol, scan?, hc]

theorem eq_of_scan?_eq_some {cs rest : List Char} {operator : Operator}
    (h : scan? cs = some (operator, rest)) : cs = operator.symbol.toList ++ rest := by
  unfold scan? at h
  split at h
  all_goals cases h
  all_goals rfl

end Operator

namespace Token

theorem majorMinor?_append (major minor : DigitRun) {rest : List Char}
    (h : rest.takeWhile Text.isDigit = []) :
    majorMinor? (major.chars ++ '.' :: (minor.chars ++ rest)) =
      some (major.chars, minor.chars, rest) := by
  have hdot : ('.' :: (minor.chars ++ rest)).takeWhile Text.isDigit = [] := rfl
  have htake := Text.takeWhile_run major.isDigit_of_mem hdot
  have hdrop := Text.dropWhile_run major.isDigit_of_mem hdot
  simp only [majorMinor?, htake, hdrop, Text.takeWhile_run minor.isDigit_of_mem h,
    Text.dropWhile_run minor.isDigit_of_mem h, List.isEmpty_eq_false_iff.mpr major.ne_nil,
    List.isEmpty_eq_false_iff.mpr minor.ne_nil, Bool.or_self, Bool.false_eq_true, if_false]

theorem exists_of_majorMinor?_eq_some {cs a b rest : List Char}
    (h : majorMinor? cs = some (a, b, rest)) :
    ∃ major minor : DigitRun, major.chars = a ∧ minor.chars = b ∧
      rest.takeWhile Text.isDigit = [] ∧ cs = a ++ '.' :: (b ++ rest) := by
  unfold majorMinor? at h
  simp only at h
  split at h
  next tail htail =>
    split at h
    · cases h
    next hne =>
      simp only [Bool.or_eq_true, List.isEmpty_iff, not_or] at hne
      obtain ⟨major, hmajor⟩ := DigitRun.exists_of_takeWhile hne.1
      obtain ⟨minor, hminor⟩ := DigitRun.exists_of_takeWhile hne.2
      simp only [Option.some.injEq, Prod.mk.injEq] at h
      obtain ⟨rfl, rfl, rfl⟩ := h
      refine ⟨major, minor, hmajor, hminor, Text.takeWhile_dropWhile_eq_nil tail, ?_⟩
      rw [List.takeWhile_append_dropWhile, ← htail, List.takeWhile_append_dropWhile]
  next => cases h

theorem isPatch_iff {cs : List Char} : isPatch cs = true ↔ ∃ patch, cs = Spelling.patchChars patch := by
  constructor
  · intro h
    unfold isPatch at h
    split at h
    · exact ⟨none, rfl⟩
    next rest =>
      simp only [Bool.and_eq_true, Bool.not_eq_true', List.isEmpty_eq_false_iff,
        List.all_eq_true] at h
      exact ⟨some ⟨rest, h.1, h.2⟩, rfl⟩
    · cases h
  · rintro ⟨patch, rfl⟩
    cases patch with
    | none => rfl
    | some run =>
      simp only [Spelling.patchChars, isPatch, Bool.and_eq_true, Bool.not_eq_true',
        List.isEmpty_eq_false_iff, List.all_eq_true]
      exact ⟨run.ne_nil, run.isDigit_of_mem⟩

theorem patched?_append {blanks : List Char} (version : Spelling)
    (h : ∀ c ∈ blanks, Text.isPlainBlank c = true) :
    patched? (blanks ++ version.chars) = some (version.major.chars, version.minor.chars) := by
  have hnil : version.chars.takeWhile Text.isPlainBlank = [] :=
    version.major.takeWhile_blank _ fun _ => Text.isBlank_of_isPlainBlank
  have hpatch := isPatch_iff.mpr ⟨version.patch, rfl⟩
  rw [patched?, Text.dropWhile_run h hnil, Spelling.chars,
    majorMinor?_append _ _ (Spelling.takeWhile_patchChars _)]
  simp only [hpatch, if_true]

theorem exists_of_patched?_eq_some {cs a b : List Char} (h : patched? cs = some (a, b)) :
    ∃ (blanks : List Char) (version : Spelling), (∀ c ∈ blanks, Text.isPlainBlank c = true) ∧
      version.major.chars = a ∧ version.minor.chars = b ∧ cs = blanks ++ version.chars := by
  unfold patched? at h
  split at h
  next major minor rest hm =>
    split at h
    next hp =>
      cases h
      obtain ⟨major, minor, rfl, rfl, _, hcs⟩ := exists_of_majorMinor?_eq_some hm
      obtain ⟨patch, rfl⟩ := isPatch_iff.mp hp
      refine ⟨cs.takeWhile Text.isPlainBlank, ⟨major, minor, patch⟩,
        fun _ => List.mem_takeWhile_imp, rfl, rfl, ?_⟩
      rw [Spelling.chars, ← hcs, List.takeWhile_append_dropWhile]
    · cases h
  next => cases h

theorem wildcard?_append {blanks : List Char} (major minor : DigitRun)
    (h : ∀ c ∈ blanks, Text.isPlainBlank c = true) :
    wildcard? (blanks ++ (major.chars ++ '.' :: (minor.chars ++ ['.', '*']))) =
      some (major.chars, minor.chars) := by
  have hnil := major.takeWhile_blank ('.' :: (minor.chars ++ ['.', '*']))
    fun _ => Text.isBlank_of_isPlainBlank
  rw [wildcard?, Text.dropWhile_run h hnil, majorMinor?_append major minor rfl]
  rfl

theorem exists_of_wildcard?_eq_some {cs a b : List Char} (h : wildcard? cs = some (a, b)) :
    ∃ (blanks : List Char) (major minor : DigitRun), (∀ c ∈ blanks, Text.isPlainBlank c = true) ∧
      major.chars = a ∧ minor.chars = b ∧
      cs = blanks ++ (major.chars ++ '.' :: (minor.chars ++ ['.', '*'])) := by
  unfold wildcard? at h
  split at h
  next major minor hm =>
    cases h
    obtain ⟨major, minor, rfl, rfl, _, hcs⟩ := exists_of_majorMinor?_eq_some hm
    refine ⟨cs.takeWhile Text.isPlainBlank, major, minor, fun _ => List.mem_takeWhile_imp, rfl, rfl, ?_⟩
    rw [← hcs, List.takeWhile_append_dropWhile]
  next => cases h

/-- A version with a patch or without one is no wildcard. -/
theorem wildcard?_version {blanks : List Char} (version : Spelling)
    (h : ∀ c ∈ blanks, Text.isPlainBlank c = true) :
    wildcard? (blanks ++ version.chars) = none := by
  have hnil : version.chars.takeWhile Text.isPlainBlank = [] :=
    version.major.takeWhile_blank _ fun _ => Text.isBlank_of_isPlainBlank
  rw [wildcard?, Text.dropWhile_run h hnil, Spelling.chars,
    majorMinor?_append _ _ (Spelling.takeWhile_patchChars _)]
  cases version.patch with
  | none => rfl
  | some run =>
    obtain ⟨c, rest, hc⟩ := List.exists_cons_of_ne_nil run.ne_nil
    have hstar : c ≠ '*' := Text.ne_of_isDigit (run.head_isDigit hc) rfl
    simp only [Spelling.patchChars, hc]
    split
    next heq =>
      simp only [Option.some.injEq, Prod.mk.injEq, List.cons.injEq] at heq
      exact absurd heq.2.2.2.1 hstar
    next => rfl

end Token

end ReleaseLines
