import ReleaseLines.Proofs.Constraint.Residue
import ReleaseLines.Proofs.Except
import ReleaseLines.Constraint.Expression

namespace ReleaseLines

namespace Clause

/-- The comparison with a line in its shortest spelling. -/
def written (operator : Operator) (line : ℕ ×ₗ ℕ) : Clause :=
  .comparison operator [] (.ofLine line) fun _ => List.not_mem_nil.elim

theorem chars_written (operator : Operator) (line : ℕ ×ₗ ℕ) :
    (written operator line).chars = (Constraint.ofLine operator line).text.toList := by
  simp [written, chars, Constraint.text, Constraint.ofLine, Spelling.text]

theorem chars_ne_nil (clause : Clause) : clause.chars ≠ [] := by
  cases clause <;> simp [chars, Spelling.chars]

theorem ne_comma_of_mem_chars {clause : Clause} {c : Char} (h : c ∈ clause.chars) : c ≠ ',' := by
  rintro rfl
  have hsymbol (operator : Operator) : ',' ∉ operator.symbol.toList := fun hc =>
    absurd (Token.isOperatorChar_of_mem_symbol hc) (by decide)
  have hrun (run : DigitRun) : ',' ∉ run.chars := fun hc =>
    absurd (run.isDigit_of_mem _ hc) (by decide)
  cases clause with
  | comparison operator blanks version blank =>
    have hblank : ',' ∉ blanks := fun hc => absurd (blank _ hc) (by decide)
    have hversion : ',' ∉ version.chars := fun hc =>
      (Spelling.mem_chars hc).elim (absurd · (by decide)) (absurd · (by decide))
    simp [chars, hsymbol, hblank, hversion] at h
  | wildcard blanks major minor plain =>
    have hblank : ',' ∉ blanks := fun hc => absurd (plain _ hc) (by decide)
    simp [chars, hsymbol, hrun, hblank] at h

theorem trim_chars (clause : Clause) : Text.trim clause.chars = clause.chars := by
  refine Text.trim_eq_self (fun c hc => ?_) fun c hc => ?_
  · have hmem (operator : Operator) (rest : List Char)
        (h : (operator.symbol.toList ++ rest).head? = some c) : Text.isBlank c = false := by
      obtain ⟨d, others, hd, hop⟩ := Token.cons_symbol operator
      have hcd : d = c := by simpa [hd] using h
      exact hcd ▸ Token.isBlank_of_isOperatorChar hop
    cases clause <;> exact hmem _ _ hc
  · cases clause with
    | comparison operator blanks version blank =>
      rw [chars, ← List.append_assoc, List.getLast?_append_of_ne_nil _ (by simp [Spelling.chars])] at hc
      exact Text.isBlank_of_isDigit (Spelling.isDigit_of_getLast? hc)
    | wildcard blanks major minor plain =>
      have hstar : c = '*' := by
        have hlast : (wildcard blanks major minor plain).chars = Operator.eq.symbol.toList ++
            (blanks ++ (major.chars ++ '.' :: (minor.chars ++ ['.']))) ++ ['*'] := by simp [chars]
        rw [hlast, List.getLast?_concat] at hc
        exact (Option.some.inj hc).symm
      exact hstar ▸ rfl

end Clause

namespace Segment

theorem canonicalVersion_eq_ok_iff {version : Spelling} {text : String} :
    canonicalVersion version.major.chars version.minor.chars = .ok text ↔
      version.IsReadable ∧ text = (Spelling.ofLine version.line).text := by
  rw [Spelling.text_ofLine]
  simp only [canonicalVersion, except_bind_eq_ok_iff, DigitRun.read_chars_eq_ok_iff]
  constructor
  · rintro ⟨_, ⟨hmajor, rfl⟩, _, ⟨hminor, rfl⟩, _, hfirst, _, hsecond, htext⟩
    rw [Numeral.write_eq_ok_iff] at hfirst hsecond
    obtain ⟨_, rfl⟩ := hfirst
    obtain ⟨_, rfl⟩ := hsecond
    exact ⟨⟨hmajor, hminor⟩, (Except.ok.inj htext).symm⟩
  · rintro ⟨h, rfl⟩
    exact ⟨_, ⟨h.1, rfl⟩, _, ⟨h.2, rfl⟩, _, Numeral.write_of_lt (DigitRun.value_lt_limit h.1), _,
      Numeral.write_of_lt (DigitRun.value_lt_limit h.2), rfl⟩

theorem readChars_comparison_eq_ok_iff (operator : Operator) {blanks : List Char} (version : Spelling)
    (h : ∀ c ∈ blanks, Text.isBlank c = true) {found : Constraint} :
    readChars (operator.symbol.toList ++ (blanks ++ version.chars)) = .ok found ↔
      version.IsReadable ∧ found = .ofLine operator version.line := by
  rw [readChars, scan_comparison operator version h]
  cases hv : canonicalVersion version.major.chars version.minor.chars with
  | error problem =>
    have hnot : ¬version.IsReadable := fun hr => by
      rw [canonicalVersion_eq_ok_iff.mpr ⟨hr, rfl⟩] at hv
      cases hv
    simp [hv, hnot]
  | ok text =>
    obtain ⟨hr, rfl⟩ := canonicalVersion_eq_ok_iff.mp hv
    simp [hv, hr, Constraint.ofLine, eq_comm]

end Segment

namespace Expression

theorem segments_eq_singleton {cs : List Char} (hne : cs ≠ []) (htrim : Text.trim cs = cs)
    (hcomma : ',' ∉ cs) : segments cs = [cs] := by
  have hp : Text.commaPieces cs = [cs] :=
    Text.pieces_eq_singleton fun c hc => by
      simpa using fun h : c = ',' => hcomma (h ▸ hc)
  simp [segments, hp, htrim, hne]

theorem segments_append_comma (before after : List Char) :
    segments (before ++ ',' :: after) = segments before ++ segments after := by
  rw [segments, Text.commaPieces, Text.pieces_append_separator _ _ (by rfl), List.map_append,
    List.filter_append]
  rfl

theorem segments_chars (clause : Clause) : segments clause.chars = [clause.chars] :=
  segments_eq_singleton clause.chars_ne_nil clause.trim_chars fun h =>
    Clause.ne_comma_of_mem_chars h rfl

theorem mapM_segments_comparison_eq_ok_iff (operator : Operator) {blanks : List Char}
    (version : Spelling) (blank : ∀ c ∈ blanks, Text.isBlank c = true) {found : List Constraint} :
    (segments (Clause.comparison operator blanks version blank).chars).mapM Segment.readChars =
        .ok found ↔
      version.IsReadable ∧ found = [.ofLine operator version.line] := by
  rw [segments_chars, mapM_eq_ok_iff, List.forall₂_cons_left_iff]
  simp only [List.forall₂_nil_left_iff, Clause.chars,
    Segment.readChars_comparison_eq_ok_iff operator version blank]
  constructor
  · rintro ⟨_, _, ⟨hr, rfl⟩, rfl, rfl⟩
    exact ⟨hr, rfl⟩
  · rintro ⟨hr, rfl⟩
    exact ⟨_, _, ⟨hr, rfl⟩, rfl, rfl⟩

theorem mapM_segments_written_eq_ok_iff (operator : Operator) (line : ℕ ×ₗ ℕ)
    {found : List Constraint} :
    (segments (Clause.written operator line).chars).mapM Segment.readChars = .ok found ↔
      (Spelling.ofLine line).IsReadable ∧ found = [.ofLine operator line] := by
  rw [Clause.written, mapM_segments_comparison_eq_ok_iff, Spelling.line_ofLine]

/-- What a part of an expression stands for. -/
def readPart (part : List Char) : Except Fault (List Constraint) :=
  match Token.normalizeChars part with
  | .error problem => .error (.badValue problem)
  | .ok plain => (segments plain).mapM Segment.readChars

theorem readPart_eq_ok_iff {part : List Char} {found : List Constraint} :
    readPart part = .ok found ↔
      ∃ plain, Token.normalizeChars part = .ok plain ∧
        (segments plain).mapM Segment.readChars = .ok found := by
  rw [readPart]
  cases Token.normalizeChars part with
  | error problem => simp
  | ok plain => simp

end Expression

namespace Token

theorem stripPatches_chars {clause : Clause} (h : clause.form? = none) :
    stripPatches clause.chars = clause.chars := by
  cases clause with
  | wildcard => cases h
  | comparison operator blanks version blank =>
    have hplain : blanks.all Text.isPlainBlank = false := by
      by_contra hp
      rw [Clause.form?, if_pos (by simpa using hp)] at h
      cases h
    have hversion : ∀ c ∈ blanks ++ version.chars, isOperatorChar c = false :=
      fun _ => not_isOperatorChar_of_mem_version blank
    have hnil := takeWhile_isOperatorChar_eq_nil hversion
    have hrun : ∀ c ∈ operator.symbol.toList, isOperatorChar c = true :=
      fun _ => isOperatorChar_of_mem_symbol
    have hcut : cutPatch? (blanks ++ version.chars) = none := by
      rw [cutPatch?, patched?_eq_none _ blank hplain]
    have htake := Text.takeWhile_run hrun hnil
    have hdrop := Text.dropWhile_run hrun hnil
    obtain ⟨c, rest, hc, _⟩ := cons_symbol operator
    rw [Clause.chars, stripPatches_of_no_cut (by rw [htake, hc]; simp) (by rw [hdrop, hcut]), htake, hdrop,
      stripPatches_eq_self hversion]

theorem normalizeChars_chars (clause : Clause) :
    normalizeChars clause.chars =
      match clause.form? with
      | some form => form.expand
      | none => .ok clause.chars := by
  rw [normalizeChars]
  simp only [clause.trim_chars, clause.form?_chars]
  cases h : clause.form? with
  | some form => rfl
  | none => simp only [stripPatches_chars h]

/-- From a line on and below another, as two comparisons. -/
def rangeChars (lower upper : ℕ ×ₗ ℕ) : List Char :=
  (Clause.written .ge lower).chars ++ ',' :: (Clause.written .lt upper).chars

theorem range_eq_ok_iff (lower upper : ℕ ×ₗ ℕ) {plain : List Char} :
    range (ofLex lower).1 (ofLex lower).2 (ofLex upper).1 (ofLex upper).2 = .ok plain ↔
      (Spelling.ofLine lower).IsReadable ∧ (Spelling.ofLine upper).IsReadable ∧
        plain = rangeChars lower upper := by
  have hchars : rangeChars lower upper = (">=" ++ Numeral.natText (ofLex lower).1 ++ "." ++
      Numeral.natText (ofLex lower).2 ++ ",<" ++ Numeral.natText (ofLex upper).1 ++ "." ++
      Numeral.natText (ofLex upper).2).toList := by
    simp [rangeChars, Clause.chars_written, Constraint.text, Constraint.ofLine, Operator.symbol,
      Spelling.text_ofLine]
  simp only [range, except_bind_eq_ok_iff, Numeral.write_eq_ok_iff, Spelling.isReadable_ofLine_iff, hchars]
  constructor
  · rintro ⟨_, ⟨ha, rfl⟩, _, ⟨hb, rfl⟩, _, ⟨hc, rfl⟩, _, ⟨hd, rfl⟩, hplain⟩
    exact ⟨⟨ha, hb⟩, ⟨hc, hd⟩, (Except.ok.inj hplain).symm⟩
  · rintro ⟨⟨ha, hb⟩, ⟨hc, hd⟩, rfl⟩
    exact ⟨_, ⟨ha, rfl⟩, _, ⟨hb, rfl⟩, _, ⟨hc, rfl⟩, _, ⟨hd, rfl⟩, rfl⟩

/-- A range is counted out where its numbers can be read and those of its upper end be written. -/
theorem readRange_eq_ok_iff (version : Spelling) (upper : ℕ ×ₗ ℕ) {f : Int → Int → Int × Int}
    {plain : List Char}
    (hf : f version.major.value version.minor.value = (↑(ofLex upper).1, ↑(ofLex upper).2)) :
    (do
      let major ← Numeral.read version.major.chars
      let minor ← Numeral.read version.minor.chars
      range major minor (f major minor).1 (f major minor).2) = .ok plain ↔
      version.IsReadable ∧ (Spelling.ofLine upper).IsReadable ∧
        plain = rangeChars version.line upper := by
  simp only [except_bind_eq_ok_iff, DigitRun.read_chars_eq_ok_iff]
  constructor
  · rintro ⟨_, ⟨hmajor, rfl⟩, _, ⟨hminor, rfl⟩, hrange⟩
    rw [hf] at hrange
    obtain ⟨_, hupper, hplain⟩ := (range_eq_ok_iff version.line upper).mp hrange
    exact ⟨⟨hmajor, hminor⟩, hupper, hplain⟩
  · rintro ⟨hr, hupper, hplain⟩
    refine ⟨_, ⟨hr.1, rfl⟩, _, ⟨hr.2, rfl⟩, ?_⟩
    rw [hf]
    exact (range_eq_ok_iff version.line upper).mpr ⟨hr.ofLine_line, hupper, hplain⟩

theorem expand_majorRange_eq_ok_iff (version : Spelling) {plain : List Char} :
    (Form.majorRange version.major.chars version.minor.chars).expand = .ok plain ↔
      version.IsReadable ∧ (Spelling.ofLine (Clause.nextMajor version.line)).IsReadable ∧
        plain = rangeChars version.line (Clause.nextMajor version.line) :=
  readRange_eq_ok_iff version (Clause.nextMajor version.line) (f := fun major _ => (major + 1, 0)) rfl

theorem expand_minorRange_eq_ok_iff (version : Spelling) {plain : List Char} :
    (Form.minorRange version.major.chars version.minor.chars).expand = .ok plain ↔
      version.IsReadable ∧ (Spelling.ofLine (Clause.nextMinor version.line)).IsReadable ∧
        plain = rangeChars version.line (Clause.nextMinor version.line) :=
  readRange_eq_ok_iff version (Clause.nextMinor version.line)
    (f := fun major minor => (major, minor + 1)) rfl

end Token

namespace Clause

/-- The numbers of a part, and those it is counted out to, are short enough. -/
def Fits (clause : Clause) : Prop :=
  clause.version.IsReadable ∧ ∀ bound ∈ clause.bounds, (Spelling.ofLine bound.2).IsReadable

theorem readPart_range {clause : Clause} {form : Token.Form} (upper : ℕ ×ₗ ℕ)
    (hform : clause.form? = some form)
    (hexpand : ∀ plain, form.expand = .ok plain ↔
      clause.version.IsReadable ∧ (Spelling.ofLine upper).IsReadable ∧
        plain = Token.rangeChars clause.version.line upper)
    (hbounds : clause.bounds = [(.ge, clause.version.line), (.lt, upper)])
    {found : List Constraint} :
    Expression.readPart clause.chars = .ok found ↔ clause.Fits ∧ found = clause.constraints := by
  have hread : (Expression.segments (Token.rangeChars clause.version.line upper)).mapM
      Segment.readChars = .ok found ↔
        ((Spelling.ofLine clause.version.line).IsReadable ∧ (Spelling.ofLine upper).IsReadable) ∧
          found = clause.constraints := by
    rw [Token.rangeChars, Expression.segments_append_comma, List.mapM_append, constraints, hbounds]
    simp only [except_bind_eq_ok_iff, Expression.mapM_segments_written_eq_ok_iff]
    constructor
    · rintro ⟨_, ⟨hlower, rfl⟩, _, ⟨hupper, rfl⟩, hfound⟩
      exact ⟨⟨hlower, hupper⟩, (Except.ok.inj hfound).symm⟩
    · rintro ⟨⟨hlower, hupper⟩, rfl⟩
      exact ⟨_, ⟨hlower, rfl⟩, _, ⟨hupper, rfl⟩, rfl⟩
  rw [Expression.readPart_eq_ok_iff, Token.normalizeChars_chars, hform, Fits, hbounds]
  simp only [hexpand, List.forall_mem_cons, List.not_mem_nil, false_imp_iff, implies_true, and_true]
  constructor
  · rintro ⟨_, ⟨hr, hupper, rfl⟩, hfound⟩
    exact ⟨⟨hr, hr.ofLine_line, hupper⟩, (hread.mp hfound).2⟩
  · rintro ⟨⟨hr, hlower, hupper⟩, hfound⟩
    exact ⟨_, ⟨hr, hupper, rfl⟩, hread.mpr ⟨⟨hlower, hupper⟩, hfound⟩⟩

theorem readPart_single {clause : Clause} (operator : Operator) {blanks : List Char}
    (version : Spelling) (blank : ∀ c ∈ blanks, Text.isBlank c = true)
    (hplain : Token.normalizeChars clause.chars =
      .ok (comparison operator blanks version blank).chars)
    (hr : clause.version.IsReadable ↔ version.IsReadable)
    (hbounds : clause.bounds = [(operator, version.line)]) {found : List Constraint} :
    Expression.readPart clause.chars = .ok found ↔ clause.Fits ∧ found = clause.constraints := by
  rw [Expression.readPart_eq_ok_iff, hplain, Fits, hbounds, constraints, hbounds, hr]
  simp only [List.forall_mem_cons, List.not_mem_nil, false_imp_iff, implies_true, and_true]
  constructor
  · rintro ⟨_, hchars, hfound⟩
    obtain rfl := Except.ok.inj hchars
    obtain ⟨h, hfound⟩ := (Expression.mapM_segments_comparison_eq_ok_iff _ _ _).mp hfound
    exact ⟨⟨h, h.ofLine_line⟩, hfound⟩
  · rintro ⟨⟨h, _⟩, hfound⟩
    exact ⟨_, rfl, (Expression.mapM_segments_comparison_eq_ok_iff _ _ _).mpr ⟨h, hfound⟩⟩

/-- A part is read as its bounds where its numbers are short enough, and not at all otherwise. -/
theorem readPart_chars_eq_ok_iff (clause : Clause) {found : List Constraint} :
    Expression.readPart clause.chars = .ok found ↔ clause.Fits ∧ found = clause.constraints := by
  cases clause with
  | wildcard blanks major minor plain =>
    exact readPart_range (nextMinor (Spelling.mk major minor none).line) rfl
      (fun _ => Token.expand_minorRange_eq_ok_iff ⟨major, minor, none⟩) rfl
  | comparison operator blanks version blank =>
    cases hp : blanks.all Text.isPlainBlank with
    | false =>
      have hnone : (comparison operator blanks version blank).form? = none := by
        simp [form?, hp]
      have hplain : Token.normalizeChars (comparison operator blanks version blank).chars =
          .ok (comparison operator blanks version blank).chars := by
        rw [Token.normalizeChars_chars, hnone]
      exact readPart_single operator version blank hplain .rfl
        (by cases operator <;> simp [bounds, hp])
    | true =>
      have hform : (comparison operator blanks version blank).form? =
          some (Token.formOf operator version) := by simp [form?, hp]
      cases operator with
      | caret =>
        exact readPart_range (nextMajor version.line) hform
          (fun _ => Token.expand_majorRange_eq_ok_iff version) (by simp [bounds, hp, Clause.version])
      | compatible =>
        exact readPart_range (nextMinor version.line) hform
          (fun _ => Token.expand_minorRange_eq_ok_iff version) (by simp [bounds, hp, Clause.version])
      | _ =>
        refine readPart_single _ ⟨version.major, version.minor, none⟩
          (fun _ => List.not_mem_nil.elim) ?_ .rfl (by simp only [bounds]; rfl)
        rw [Token.normalizeChars_chars, hform]
        simp [Token.formOf, Token.Form.expand, chars, Spelling.chars, Spelling.patchChars]

end Clause

end ReleaseLines
