import ReleaseLines.Proofs.Constraint.Plain
import ReleaseLines.Proofs.Constraint.Settled

namespace ReleaseLines

/-- Whether a number is refused for how many digits it has. -/
def BadValue.isAboutLength : BadValue → Bool
  | tooManyDigits count => Numeral.digitLimit < count
  | tooLongToWrite => true
  | _ => false

theorem DigitRun.isAboutLength_of_read {run : DigitRun} {problem : BadValue}
    (h : Numeral.read run.chars = .error problem) : problem.isAboutLength = true := by
  rw [run.read_chars] at h
  split at h
  next hlong =>
    obtain rfl := Except.error.inj h
    exact decide_eq_true hlong
  next => cases h

theorem Numeral.isAboutLength_of_write {n : Int} {problem : BadValue}
    (h : write n = .error problem) : problem.isAboutLength = true := by
  rw [write] at h
  split at h
  next => cases h
  next =>
    obtain rfl := Except.error.inj h
    rfl

namespace Segment

theorem isAboutLength_of_canonicalVersion {major minor : DigitRun} {problem : BadValue}
    (h : canonicalVersion major.chars minor.chars = .error problem) :
    problem.isAboutLength = true := by
  simp only [canonicalVersion, except_bind_eq_error_iff] at h
  rcases h with h | ⟨_, _, h | ⟨_, _, h | ⟨_, _, h | ⟨_, _, h⟩⟩⟩⟩
  · exact DigitRun.isAboutLength_of_read h
  · exact DigitRun.isAboutLength_of_read h
  · exact Numeral.isAboutLength_of_write h
  · exact Numeral.isAboutLength_of_write h
  · cases h

end Segment

theorem Comparison.exists_of_readChars_eq_error {c : Comparison} {fault : Fault}
    (h : Segment.readChars c.clause.chars = .error fault) :
    ∃ problem, problem.isAboutLength = true ∧ fault = .badValue problem := by
  have hscan := Segment.scan_comparison c.operator c.version c.isBlank_of_mem
  rw [Segment.readChars, clause, Clause.chars, hscan] at h
  cases hversion : Segment.canonicalVersion c.version.major.chars c.version.minor.chars with
  | error problem =>
    simp only [hversion] at h
    exact ⟨problem, Segment.isAboutLength_of_canonicalVersion hversion, (Except.error.inj h).symm⟩
  | ok text =>
    simp only [hversion] at h
    cases h

namespace Token

theorem isAboutLength_of_range {a b c d : Int} {problem : BadValue}
    (h : range a b c d = .error problem) : problem.isAboutLength = true := by
  simp only [range, except_bind_eq_error_iff] at h
  rcases h with h | ⟨_, _, h | ⟨_, _, h | ⟨_, _, h | ⟨_, _, h⟩⟩⟩⟩
  · exact Numeral.isAboutLength_of_write h
  · exact Numeral.isAboutLength_of_write h
  · exact Numeral.isAboutLength_of_write h
  · exact Numeral.isAboutLength_of_write h
  · cases h

theorem isAboutLength_of_readRange {version : Spelling} {f : Int → Int → Int × Int}
    {problem : BadValue}
    (h : (do
      let major ← Numeral.read version.major.chars
      let minor ← Numeral.read version.minor.chars
      range major minor (f major minor).1 (f major minor).2) = .error problem) :
    problem.isAboutLength = true := by
  simp only [except_bind_eq_error_iff] at h
  rcases h with h | ⟨_, _, h | ⟨_, _, h⟩⟩
  · exact DigitRun.isAboutLength_of_read h
  · exact DigitRun.isAboutLength_of_read h
  · exact isAboutLength_of_range h

theorem isAboutLength_of_expand {clause : Clause} {form : Form} {problem : BadValue}
    (hform : clause.form? = some form) (h : form.expand = .error problem) :
    problem.isAboutLength = true := by
  have hmajor (version : Spelling)
      (h : (Form.majorRange version.major.chars version.minor.chars).expand = .error problem) :
      problem.isAboutLength = true :=
    isAboutLength_of_readRange (f := fun major _ => (major + 1, 0)) h
  have hminor (version : Spelling)
      (h : (Form.minorRange version.major.chars version.minor.chars).expand = .error problem) :
      problem.isAboutLength = true :=
    isAboutLength_of_readRange (f := fun major minor => (major, minor + 1)) h
  cases clause with
  | wildcard blanks major minor blank =>
    obtain rfl := Option.some.inj hform
    exact hminor ⟨major, minor, none⟩ h
  | comparison operator blanks version blank =>
    rw [Clause.form?] at hform
    split at hform
    next =>
      obtain rfl := Option.some.inj hform
      cases operator with
      | caret => exact hmajor version h
      | compatible => exact hminor version h
      | _ => cases h
    next => cases hform

/-- What a part is normalized to are comparisons. -/
theorem exists_comparison_of_normalizeChars {clause : Clause} {plain segment : List Char}
    (h : normalizeChars clause.chars = .ok plain) (hsegment : segment ∈ Expression.segments plain) :
    ∃ c : Comparison, c.clause.chars = segment := by
  have written (operator : Operator) (line : ℕ ×ₗ ℕ) :
      ∃ c : Comparison, c.clause = .written operator line :=
    ⟨⟨operator, [], .ofLine line, fun _ => List.not_mem_nil.elim⟩, rfl⟩
  have single (c : Comparison) (hc : segment ∈ Expression.segments c.clause.chars) :
      ∃ c : Comparison, c.clause.chars = segment := by
    rw [Expression.segments_chars, List.mem_singleton] at hc
    exact ⟨c, hc.symm⟩
  rw [normalizeChars_chars] at h
  cases hform : clause.form? with
  | some form =>
    rw [hform] at h
    rcases expand_cases hform h with ⟨lower, upper, rfl⟩ | ⟨operator, version, _, rfl⟩
    · obtain ⟨first, hfirst⟩ := written .ge lower
      obtain ⟨second, hsecond⟩ := written .lt upper
      rw [rangeChars, Expression.segments_append_comma, List.mem_append, ← hfirst, ← hsecond]
        at hsegment
      exact hsegment.elim (single first) (single second)
    · exact single ⟨operator, [], ⟨version.major, version.minor, none⟩,
        fun _ => List.not_mem_nil.elim⟩ hsegment
  | none =>
    rw [hform] at h
    obtain rfl := Except.ok.inj h
    cases clause with
    | wildcard => cases hform
    | comparison operator blanks version blank =>
      exact single ⟨operator, blanks, version, blank⟩ hsegment

end Token

namespace Clause

theorem fits_of_expand {clause : Clause} {form : Token.Form} {plain : List Char}
    (hform : clause.form? = some form) (h : form.expand = .ok plain)
    (hcounted : clause.isCountedOut = true) : clause.Fits := by
  have hfits (upper : ℕ ×ₗ ℕ) (hbounds : clause.bounds = [(.ge, clause.version.line), (.lt, upper)])
      (hr : clause.version.IsReadable) (hupper : (Spelling.ofLine upper).IsReadable) :
      clause.Fits := by
    rw [Fits, hbounds]
    simp only [List.forall_mem_cons, List.not_mem_nil, false_imp_iff, implies_true, and_true]
    exact ⟨hr, hr.ofLine_line, hupper⟩
  cases clause with
  | wildcard blanks major minor blank =>
    obtain rfl := Option.some.inj hform
    obtain ⟨hr, hupper, _⟩ := (Token.expand_minorRange_eq_ok_iff ⟨major, minor, none⟩).mp h
    exact hfits _ rfl hr hupper
  | comparison operator blanks version blank =>
    rw [isCountedOut, Bool.and_eq_true, Bool.not_eq_true'] at hcounted
    obtain ⟨hoperator, hblanks⟩ := hcounted
    rw [form?, if_pos hblanks] at hform
    obtain rfl := Option.some.inj hform
    cases operator with
    | caret =>
      obtain ⟨hr, hupper, _⟩ := (Token.expand_majorRange_eq_ok_iff version).mp h
      exact hfits _ (by simp [bounds, hblanks, Clause.version]) hr hupper
    | compatible =>
      obtain ⟨hr, hupper, _⟩ := (Token.expand_minorRange_eq_ok_iff version).mp h
      exact hfits _ (by simp [bounds, hblanks, Clause.version]) hr hupper
    | _ => cases hoperator

/-- Only a part that is counted out is refused by the normalization, and only for its length. -/
theorem exists_normalizeChars_iff (clause : Clause) :
    (∃ plain, Token.normalizeChars clause.chars = .ok plain) ↔
      (clause.isCountedOut = true → clause.Fits) := by
  constructor
  · rintro ⟨plain, h⟩ hcounted
    rw [Token.normalizeChars_chars] at h
    cases hform : clause.form? with
    | some form =>
      rw [hform] at h
      exact fits_of_expand hform h hcounted
    | none =>
      cases clause with
      | wildcard => cases hform
      | comparison operator blanks version blank =>
        rw [isCountedOut, Bool.and_eq_true] at hcounted
        rw [form?, if_pos hcounted.2] at hform
        cases hform
  · intro h
    by_cases hcounted : clause.isCountedOut = true
    · exact Expression.exists_normalizeChars_of_fits (h hcounted)
    · rw [Token.normalizeChars_chars]
      cases clause with
      | wildcard => exact absurd rfl hcounted
      | comparison operator blanks version blank =>
        rw [form?]
        cases hp : blanks.all Text.isPlainBlank with
        | false => exact ⟨_, rfl⟩
        | true =>
          have hprimitive : operator.isPrimitive = true := by
            simpa [isCountedOut, hp] using hcounted
          exact ⟨_, Token.expand_formOf version hprimitive⟩

/-- A part that is no good is refused for its length. -/
theorem exists_of_readPart_eq_error {clause : Clause} {fault : Fault}
    (h : Expression.readPart clause.chars = .error fault) :
    ∃ problem, problem.isAboutLength = true ∧ fault = .badValue problem := by
  rw [Expression.readPart] at h
  cases hplain : Token.normalizeChars clause.chars with
  | error problem =>
    rw [hplain] at h
    refine ⟨problem, ?_, (Except.error.inj h).symm⟩
    rw [Token.normalizeChars_chars] at hplain
    cases hform : clause.form? with
    | some form =>
      rw [hform] at hplain
      exact Token.isAboutLength_of_expand hform hplain
    | none =>
      rw [hform] at hplain
      cases hplain
  | ok plain =>
    rw [hplain] at h
    obtain ⟨before, segment, after, hsegments, _, hsegment⟩ := exists_of_mapM_eq_error h
    have hmem : segment ∈ Expression.segments plain := by simp [hsegments]
    obtain ⟨c, rfl⟩ := Token.exists_comparison_of_normalizeChars hplain hmem
    exact c.exists_of_readChars_eq_error hsegment

/-- Whether the numbers of a part are short enough shows in its text. -/
theorem fits_congr {clause other : Clause} (h : clause.chars = other.chars) :
    clause.Fits ↔ other.Fits := by
  have hread (clause : Clause) :
      clause.Fits ↔ ∃ found, Expression.readPart clause.chars = .ok found :=
    ⟨fun hfits => ⟨_, clause.readPart_chars_eq_ok_iff.mpr ⟨hfits, rfl⟩⟩,
      fun ⟨_, hfound⟩ => (clause.readPart_chars_eq_ok_iff.mp hfound).1⟩
  rw [hread clause, hread other, h]

end Clause

end ReleaseLines
