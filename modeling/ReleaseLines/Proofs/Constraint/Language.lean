import ReleaseLines.Proofs.Constraint.Reading

namespace ReleaseLines

namespace Token

theorem normalizeChars_trim (token : List Char) :
    normalizeChars (Text.trim token) = normalizeChars token := by
  rw [normalizeChars, normalizeChars, Text.trim_trim]

theorem normalizeChars_comp_trim : normalizeChars ∘ Text.trim = normalizeChars :=
  funext normalizeChars_trim

theorem normalizeChars_nil : normalizeChars [] = .ok [] := by
  rw [normalizeChars, Text.trim_nil]
  simp only [form?, stripPatches_nil]

theorem normalizeChars_of_not_clause {part : List Char} (htrim : Text.trim part = part)
    (h : ∀ clause : Clause, clause.chars ≠ part) :
    normalizeChars part = .ok (stripPatches part) := by
  rw [normalizeChars, htrim]
  cases hform : form? part with
  | none => rfl
  | some form =>
    obtain ⟨clause, hclause⟩ := Clause.exists_of_form?_eq_some hform
    exact absurd hclause (h clause)

end Token

namespace Clause

theorem infix_chars (clause : Clause) :
    clause.version.major.chars <:+: clause.chars ∧ clause.version.minor.chars <:+: clause.chars := by
  cases clause with
  | comparison operator blanks version blank =>
    exact ⟨⟨operator.symbol.toList ++ blanks, '.' :: (version.minor.chars ++ _),
        by simp [chars, Spelling.chars, Clause.version]; rfl⟩,
      ⟨operator.symbol.toList ++ (blanks ++ (version.major.chars ++ ['.'])), _,
        by simp [chars, Spelling.chars, Clause.version]; rfl⟩⟩
  | wildcard blanks major minor plain =>
    exact ⟨⟨Operator.eq.symbol.toList ++ blanks, '.' :: (minor.chars ++ ['.', '*']),
        by simp [chars, Clause.version]⟩,
      ⟨Operator.eq.symbol.toList ++ (blanks ++ (major.chars ++ ['.'])), ['.', '*'],
        by simp [chars, Clause.version]⟩⟩

theorem bounds_le {clause : Clause} {bound : Operator × (ℕ ×ₗ ℕ)} (h : bound ∈ clause.bounds) :
    (ofLex bound.2).1 ≤ clause.version.major.value + 1 ∧
      (ofLex bound.2).2 ≤ clause.version.minor.value + 1 := by
  cases clause with
  | wildcard blanks major minor plain =>
    rcases (by simpa [bounds] using h) with rfl | rfl <;> simp [nextMinor, Clause.version]
  | comparison operator blanks version blank =>
    cases hp : blanks.all Text.isPlainBlank with
    | false =>
      obtain rfl : bound = (operator, version.line) := by
        cases operator <;> simpa [bounds, hp] using h
      simp [Spelling.line, Clause.version]
    | true =>
      cases operator with
      | caret =>
        simp only [bounds, hp, List.mem_cons, List.not_mem_nil, or_false] at h
        rcases h with rfl | rfl <;> simp [nextMajor, Spelling.line, Clause.version]
      | compatible =>
        simp only [bounds, hp, List.mem_cons, List.not_mem_nil, or_false] at h
        rcases h with rfl | rfl <;> simp [nextMinor, Spelling.line, Clause.version]
      | _ =>
        simp only [bounds, List.mem_cons, List.not_mem_nil, or_false] at h
        subst h
        simp [Spelling.line, Clause.version]

theorem fits_of_short {clause : Clause}
    (h : ∀ run : DigitRun, run.chars <:+: clause.chars → run.chars.length < Numeral.digitLimit) :
    clause.Fits := by
  have hmajor := h _ clause.infix_chars.1
  have hminor := h _ clause.infix_chars.2
  refine ⟨⟨hmajor.le, hminor.le⟩, fun bound hbound => Spelling.isReadable_ofLine_iff.mpr ?_⟩
  obtain ⟨hfirst, hsecond⟩ := bounds_le hbound
  have hmajorValue := DigitRun.value_succ_lt_limit hmajor
  have hminorValue := DigitRun.value_succ_lt_limit hminor
  exact ⟨hfirst.trans_lt hmajorValue, hsecond.trans_lt hminorValue⟩

end Clause

namespace Expression

theorem segments_nil : segments [] = [] := rfl

theorem trim_of_mem_segments {part cs : List Char} (h : part ∈ segments cs) :
    Text.trim part = part := by
  obtain ⟨piece, _, rfl⟩ := List.mem_map.mp (List.mem_of_mem_filter h)
  exact Text.trim_trim piece

theorem ne_nil_of_mem_segments {part cs : List Char} (h : part ∈ segments cs) : part ≠ [] := by
  simpa using (List.mem_filter.mp h).2

theorem infix_of_mem_segments {part cs : List Char} (h : part ∈ segments cs) : part <:+: cs := by
  obtain ⟨piece, hpiece, rfl⟩ := List.mem_map.mp (List.mem_of_mem_filter h)
  exact (Text.trim_infix piece).trans (Text.infix_of_mem_pieces hpiece)

theorem not_mem_comma_of_mem_segments {part cs : List Char} (h : part ∈ segments cs) :
    ',' ∉ part := by
  obtain ⟨piece, hpiece, rfl⟩ := List.mem_map.mp (List.mem_of_mem_filter h)
  intro hc
  have hfalse := Text.eq_false_of_mem_pieces hpiece ((Text.trim_infix piece).subset hc)
  simp at hfalse

theorem segments_intercalate (texts : List (List Char)) :
    segments (List.intercalate [','] texts) = texts.flatMap segments := by
  induction texts with
  | nil => rfl
  | cons text rest ih =>
    cases rest with
    | nil => simp [List.intercalate_singleton]
    | cons next others =>
      rw [List.intercalate_cons_cons, List.append_assoc, List.singleton_append,
        segments_append_comma, ih]
      rfl

/-- The segments of a normalized expression are those of its normalized parts. -/
theorem map_segments_normalizeChars (cs : List Char) :
    (normalizeChars cs).map segments =
      ((segments cs).mapM Token.normalizeChars).map (·.flatMap segments) := by
  -- A blank token stays blank, so it counts for nothing on either side.
  have drop_blank (tokens : List (List Char)) :
      (tokens.mapM Token.normalizeChars).map (·.flatMap segments) =
        ((tokens.filter (!·.isEmpty)).mapM Token.normalizeChars).map (·.flatMap segments) := by
    induction tokens with
    | nil => rfl
    | cons token rest ih =>
      cases token with
      | nil =>
        rw [List.mapM_cons, Token.normalizeChars_nil, List.filter_cons_of_neg (by simp), ← ih]
        cases rest.mapM Token.normalizeChars <;> rfl
      | cons c others =>
        rw [List.filter_cons_of_pos (by simp), List.mapM_cons, List.mapM_cons]
        cases Token.normalizeChars (c :: others) with
        | error problem => rfl
        | ok plain =>
          generalize rest.mapM Token.normalizeChars = left at ih ⊢
          generalize (rest.filter _).mapM Token.normalizeChars = right at ih ⊢
          cases left <;> cases right <;> simp_all [Except.map, bind, Except.bind, pure, Except.pure]
  rw [segments, ← drop_blank, ← Text.map_trim_commaPieces_trim, List.mapM_map,
    Token.normalizeChars_comp_trim, normalizeChars]
  cases (Text.commaPieces (Text.trim cs)).mapM Token.normalizeChars with
  | error problem => rfl
  | ok plains => simp only [Except.map, segments_intercalate]

/-- Reads segments in order; there must be one. -/
def readFound : List (List Char) → Except Fault (List Constraint)
  | [] => .error .noConstraintsFound
  | found => found.mapM Segment.readChars

theorem readFound_of_ne_nil {found : List (List Char)} (h : found ≠ []) :
    readFound found = found.mapM Segment.readChars := by
  cases found with
  | nil => exact absurd rfl h
  | cons first others => exact rfl

theorem readSegments_eq (cs : List Char) : readSegments cs = readFound (segments cs) := by
  unfold readSegments
  cases segments cs with
  | nil => exact rfl
  | cons first others => exact rfl

theorem read_empty : read "" = .error .emptyExpression := rfl

/-- An expression is read by normalizing its parts and reading what becomes of them. -/
theorem read_of_normalized {expression : String} {plains : List (List Char)}
    (hne : expression ≠ "")
    (h : (segments expression.toList).mapM Token.normalizeChars = .ok plains) :
    read expression = readFound (plains.flatMap segments) := by
  have hkey := map_segments_normalizeChars expression.toList
  rw [h] at hkey
  obtain ⟨plain, hplain, hsegments⟩ := except_map_eq_ok_iff.mp hkey
  rw [read, if_neg (by simpa using hne), hplain]
  exact (readSegments_eq plain).trans (congrArg readFound hsegments)

theorem exists_normalized {expression : String} {found : List Constraint}
    (h : read expression = .ok found) :
    expression ≠ "" ∧
      ∃ plains, (segments expression.toList).mapM Token.normalizeChars = .ok plains := by
  have hne : expression ≠ "" := by
    rintro rfl
    rw [read_empty] at h
    cases h
  refine ⟨hne, ?_⟩
  have hkey := map_segments_normalizeChars expression.toList
  rw [read, if_neg (by simpa using hne)] at h
  cases hplain : normalizeChars expression.toList with
  | error problem =>
    rw [hplain] at h
    cases h
  | ok plain =>
    rw [hplain] at hkey
    obtain ⟨plains, hplains, _⟩ := except_map_eq_ok_iff.mp hkey.symm
    exact ⟨plains, hplains⟩

theorem mapM_readPart {parts plains : List (List Char)}
    (h : parts.mapM Token.normalizeChars = .ok plains) :
    (parts.mapM readPart).map List.flatten = (plains.flatMap segments).mapM Segment.readChars := by
  rw [mapM_flatMap]
  rw [mapM_eq_ok_iff] at h
  congr 1
  induction h with
  | nil => rfl
  | cons hplain _ ih => rw [List.mapM_cons, List.mapM_cons, ih, readPart, hplain]

theorem flatMap_segments_ne_nil {parts plains : List (List Char)}
    (h : parts.mapM Token.normalizeChars = .ok plains)
    (hfound : (parts.mapM readPart).map List.flatten ≠ .ok []) : plains.flatMap segments ≠ [] := by
  intro hnil
  rw [mapM_readPart h, hnil] at hfound
  exact hfound rfl

theorem read_eq_mapM_readPart {expression : String} {plains : List (List Char)}
    (hne : expression ≠ "")
    (h : (segments expression.toList).mapM Token.normalizeChars = .ok plains)
    (hfound : plains.flatMap segments ≠ []) :
    read expression = ((segments expression.toList).mapM readPart).map List.flatten := by
  rw [read_of_normalized hne h, readFound_of_ne_nil hfound, mapM_readPart h]

/-- A text that is no part is reported without its patches. -/
theorem readPart_of_not_clause {part cs : List Char} (hpart : part ∈ segments cs)
    (h : ∀ clause : Clause, clause.chars ≠ part) :
    ∃ flaw : Segment.Flaw, Segment.scan (Token.stripPatches part) = .error flaw ∧
      readPart part =
        .error (.malformedConstraint (String.ofList (Token.stripPatches part)) flaw.text) := by
  have htrim := trim_of_mem_segments hpart
  have hsegments : segments (Token.stripPatches part) = [Token.stripPatches part] :=
    segments_eq_singleton (Token.stripPatches_ne_nil (ne_nil_of_mem_segments hpart))
      (Token.trim_stripPatches htrim)
      (mt Token.mem_of_mem_stripPatches (not_mem_comma_of_mem_segments hpart))
  cases hscan : Segment.scan (Token.stripPatches part) with
  | ok found =>
    obtain ⟨clause, hclause⟩ := Token.exists_of_scan_stripPatches_eq_ok hscan
    exact absurd hclause (h clause)
  | error flaw =>
    refine ⟨flaw, rfl, ?_⟩
    rw [readPart, Token.normalizeChars_of_not_clause htrim h]
    simp only [hsegments, List.mapM_cons, Segment.readChars, hscan]
    rfl

theorem exists_normalizeChars_of_fits {clause : Clause} (h : clause.Fits) :
    ∃ plain, Token.normalizeChars clause.chars = .ok plain := by
  obtain ⟨plain, hplain, _⟩ :=
    readPart_eq_ok_iff.mp (clause.readPart_chars_eq_ok_iff.mpr ⟨h, rfl⟩)
  exact ⟨plain, hplain⟩

theorem exists_normalizeChars {part cs : List Char} (hpart : part ∈ segments cs)
    (h : ∀ clause : Clause, clause.chars = part → clause.Fits) :
    ∃ plain, Token.normalizeChars part = .ok plain := by
  by_cases hclause : ∃ clause : Clause, clause.chars = part
  · obtain ⟨clause, rfl⟩ := hclause
    exact exists_normalizeChars_of_fits (h clause rfl)
  · exact ⟨_, Token.normalizeChars_of_not_clause (trim_of_mem_segments hpart)
      fun clause hchars => hclause ⟨clause, hchars⟩⟩

theorem mapM_readPart_chars {clauses : List Clause} (h : ∀ clause ∈ clauses, clause.Fits) :
    (clauses.map Clause.chars).mapM readPart = .ok (clauses.map Clause.constraints) := by
  rw [mapM_eq_ok_iff]
  induction clauses with
  | nil => exact .nil
  | cons clause rest ih =>
    refine .cons (clause.readPart_chars_eq_ok_iff.mpr ⟨h clause (by simp), rfl⟩) (ih fun other ho => ?_)
    exact h other (List.mem_cons_of_mem clause ho)

theorem exists_clauses_of_mapM_readPart {cs : List Char} {parts : List (List Char)}
    {results : List (List Constraint)} (hparts : ∀ part ∈ parts, part ∈ segments cs)
    (h : parts.mapM readPart = .ok results) :
    ∃ clauses : List Clause, parts = clauses.map Clause.chars ∧
      (∀ clause ∈ clauses, clause.Fits) ∧ results = clauses.map Clause.constraints := by
  rw [mapM_eq_ok_iff] at h
  induction h with
  | nil => exact ⟨[], rfl, by simp, rfl⟩
  | @cons part result rest others hread _ ih =>
    obtain ⟨clauses, rfl, hfits, rfl⟩ := ih fun other ho => hparts other (List.mem_cons_of_mem part ho)
    by_cases hclause : ∃ clause : Clause, clause.chars = part
    · obtain ⟨clause, rfl⟩ := hclause
      obtain ⟨hfit, rfl⟩ := clause.readPart_chars_eq_ok_iff.mp hread
      exact ⟨clause :: clauses, rfl, List.forall_mem_cons.mpr ⟨hfit, hfits⟩, rfl⟩
    · obtain ⟨flaw, _, hflaw⟩ :=
        readPart_of_not_clause (hparts part (by simp)) fun clause h => hclause ⟨clause, h⟩
      rw [hflaw] at hread
      cases hread

/-- The expressions that are accepted, and what they are read as. -/
theorem read_eq_ok_iff {expression : String} {found : List Constraint} :
    read expression = .ok found ↔
      ∃ clauses : List Clause, clauses ≠ [] ∧
        segments expression.toList = clauses.map Clause.chars ∧
        (∀ clause ∈ clauses, clause.Fits) ∧ found = clauses.flatMap Clause.constraints := by
  constructor
  · intro h
    obtain ⟨hne, plains, hparts⟩ := exists_normalized h
    have hplains : plains.flatMap segments ≠ [] := by
      intro hnil
      rw [read_of_normalized hne hparts, hnil] at h
      cases h
    rw [read_eq_mapM_readPart hne hparts hplains, except_map_eq_ok_iff] at h
    obtain ⟨results, hresults, rfl⟩ := h
    obtain ⟨clauses, hclauses, hfits, rfl⟩ :=
      exists_clauses_of_mapM_readPart (fun _ hpart => hpart) hresults
    refine ⟨clauses, ?_, hclauses, hfits, rfl⟩
    rintro rfl
    rw [hclauses, List.map_nil, List.mapM_nil] at hparts
    obtain rfl := Except.ok.inj hparts
    exact hplains rfl
  · rintro ⟨clauses, hclauses, hparts, hfits, rfl⟩
    have hresults := mapM_readPart_chars hfits
    have hne : expression ≠ "" := by
      rintro rfl
      rw [String.toList_empty, segments_nil] at hparts
      exact hclauses (List.map_eq_nil_iff.mp hparts.symm)
    obtain ⟨plains, hplains⟩ : ∃ plains, (clauses.map Clause.chars).mapM Token.normalizeChars = .ok plains :=
      exists_mapM_eq_ok fun part hpart => by
        obtain ⟨clause, hclause, rfl⟩ := List.mem_map.mp hpart
        exact exists_normalizeChars_of_fits (hfits clause hclause)
    obtain ⟨clause, rest, rfl⟩ := List.exists_cons_of_ne_nil hclauses
    have hfound : plains.flatMap segments ≠ [] := by
      refine flatMap_segments_ne_nil hplains ?_
      rw [hresults]
      simp [Except.map, Clause.constraints_ne_nil]
    rw [read_eq_mapM_readPart hne (hparts ▸ hplains) hfound, hparts, hresults]
    rfl

/-- A constraint in its shortest spelling is an expression of its own. -/
theorem read_text_ofLine {operator : Operator} {line : ℕ ×ₗ ℕ}
    (h : (Clause.written operator line).Fits) :
    read (Constraint.ofLine operator line).text =
      .ok (Clause.written operator line).constraints := by
  have hparts : segments (Constraint.ofLine operator line).text.toList =
      [Clause.written operator line].map Clause.chars := by
    rw [← Clause.chars_written, segments_chars]
    rfl
  exact read_eq_ok_iff.mpr ⟨_, List.cons_ne_nil _ _, hparts, by simpa using h, by simp⟩

/-- Everything that an expression without long numbers can say, and all that can be wrong with it:
nothing at all, nothing between its commas, or a first part that is none. -/
theorem read_of_short_numbers (expression : String)
    (short : ∀ run : DigitRun, run.chars <:+: expression.toList →
      run.chars.length < Numeral.digitLimit) :
    (expression = "" → read expression = .error .emptyExpression) ∧
    (expression ≠ "" → segments expression.toList = [] →
      read expression = .error .noConstraintsFound) ∧
    (∀ clauses : List Clause, clauses ≠ [] →
      segments expression.toList = clauses.map Clause.chars →
      read expression = .ok (clauses.flatMap Clause.constraints)) ∧
    (∀ (good : List Clause) (bad : List Char) (after : List (List Char)),
      segments expression.toList = good.map Clause.chars ++ bad :: after →
      (∀ clause : Clause, clause.chars ≠ bad) →
      ∃ (segment : List Char) (flaw : Segment.Flaw),
        Token.normalizeChars bad = .ok segment ∧ Segment.scan segment = .error flaw ∧
        read expression = .error (.malformedConstraint (String.ofList segment) flaw.text)) := by
  have fits (clause : Clause) (h : clause.chars ∈ segments expression.toList) : clause.Fits :=
    Clause.fits_of_short fun run hrun => short run (hrun.trans (infix_of_mem_segments h))
  refine ⟨?_, ?_, ?_, ?_⟩
  · rintro rfl
    exact read_empty
  · intro hne hparts
    have hnone : (segments expression.toList).mapM Token.normalizeChars = .ok [] := by
      rw [hparts]
      rfl
    rw [read_of_normalized hne hnone]
    exact rfl
  · intro clauses hclauses hparts
    refine read_eq_ok_iff.mpr ⟨clauses, hclauses, hparts, fun clause hclause => fits clause ?_, rfl⟩
    rw [hparts]
    exact List.mem_map_of_mem hclause
  · intro good bad after hparts hbad
    have hne : expression ≠ "" := by
      rintro rfl
      rw [String.toList_empty, segments_nil] at hparts
      simp at hparts
    have hbadPart : bad ∈ segments expression.toList := by simp [hparts]
    obtain ⟨flaw, hscan, hread⟩ := readPart_of_not_clause hbadPart hbad
    have hgood : (good.map Clause.chars).mapM readPart = .ok (good.map Clause.constraints) :=
      mapM_readPart_chars fun clause hclause =>
        fits clause (by rw [hparts]; exact List.mem_append_left _ (List.mem_map_of_mem hclause))
    have herror : (good.map Clause.chars ++ bad :: after).mapM readPart = _ :=
      mapM_eq_error ⟨_, hgood⟩ hread
    obtain ⟨plains, hplains⟩ : ∃ plains,
        (segments expression.toList).mapM Token.normalizeChars = .ok plains :=
      exists_mapM_eq_ok fun part hpart =>
        exists_normalizeChars hpart fun clause hclause => fits clause (hclause ▸ hpart)
    have hfound : plains.flatMap segments ≠ [] := by
      refine flatMap_segments_ne_nil hplains ?_
      rw [hparts, herror]
      simp [Except.map]
    refine ⟨Token.stripPatches bad, flaw,
      Token.normalizeChars_of_not_clause (trim_of_mem_segments hbadPart) hbad, hscan, ?_⟩
    rw [read_eq_mapM_readPart hne hplains hfound, hparts, herror]
    rfl

theorem read_at_least_and_caret :
    read ">=3.9, ^3.10" = .ok [⟨.ge, "3.9"⟩, ⟨.ge, "3.10"⟩, ⟨.lt, "4.0"⟩] := by
  have short (run : DigitRun) (h : run.chars <:+: ">=3.9, ^3.10".toList) :
      run.chars.length < Numeral.digitLimit := h.length_le.trans_lt (by decide)
  have hread := (read_of_short_numbers ">=3.9, ^3.10" short).2.2.1
    [.written .ge (toLex (3, 9)), .written .caret (toLex (3, 10))] (by simp) (by decide +kernel)
  rw [hread]
  exact congrArg _ (by decide +kernel)

end Expression

end ReleaseLines
