import ReleaseLines.Proofs.Constraint.Language

namespace ReleaseLines

namespace Token

/-- A comparison without blanks and without a patch. -/
def bareChars (operator : Operator) (version : Spelling) : List Char :=
  operator.symbol.toList ++ (Spelling.mk version.major version.minor none).chars

theorem expand_formOf {operator : Operator} (version : Spelling) (h : operator.isPrimitive = true) :
    (formOf operator version).expand = .ok (bareChars operator version) := by
  cases operator with
  | caret | compatible => cases h
  | _ => simp [formOf, Form.expand, bareChars, Spelling.chars, Spelling.patchChars]

/-- A form expands to a range or to a bare comparison. -/
theorem expand_cases {clause : Clause} {form : Form} {plain : List Char}
    (hform : clause.form? = some form) (h : form.expand = .ok plain) :
    (∃ lower upper, plain = rangeChars lower upper) ∨
      ∃ operator version, operator.isPrimitive = true ∧ plain = bareChars operator version := by
  cases clause with
  | wildcard blanks major minor blank =>
    obtain rfl := Option.some.inj hform
    obtain ⟨_, _, hplain⟩ := (expand_minorRange_eq_ok_iff ⟨major, minor, none⟩).mp h
    exact .inl ⟨_, _, hplain⟩
  | comparison operator blanks version blank =>
    rw [Clause.form?] at hform
    split at hform
    next =>
      obtain rfl := Option.some.inj hform
      cases operator with
      | caret =>
        obtain ⟨_, _, hplain⟩ := (expand_majorRange_eq_ok_iff version).mp h
        exact .inl ⟨_, _, hplain⟩
      | compatible =>
        obtain ⟨_, _, hplain⟩ := (expand_minorRange_eq_ok_iff version).mp h
        exact .inl ⟨_, _, hplain⟩
      | _ => exact .inr ⟨_, version, rfl, Except.ok.inj (h.symm.trans (expand_formOf version rfl))⟩
    next => cases hform

theorem stripPatches_append {front : List Char} (rest : List Char)
    (h : ∀ c ∈ front, isOperatorChar c = false) :
    stripPatches (front ++ rest) = front ++ stripPatches rest := by
  induction front with
  | nil => rfl
  | cons c others ih =>
    rw [List.cons_append, stripPatches_cons_of_false _ (h c (by simp)),
      ih fun d hd => h d (List.mem_cons_of_mem c hd), List.cons_append]

theorem stripPatches_run {run rest : List Char} (hne : run ≠ [])
    (hrun : ∀ c ∈ run, isOperatorChar c = true) (hrest : rest.takeWhile isOperatorChar = [])
    (hcut : cutPatch? rest = none) : stripPatches (run ++ rest) = run ++ stripPatches rest := by
  have htake := Text.takeWhile_run hrun hrest
  have hdrop := Text.dropWhile_run hrun hrest
  rw [stripPatches_of_no_cut (by rwa [htake]) (by rwa [hdrop]), htake, hdrop]

theorem cutPatch?_append {blanks rest : List Char} (major minor patch : DigitRun)
    (hblanks : ∀ c ∈ blanks, Text.isPlainBlank c = true) (hdigit : rest.takeWhile Text.isDigit = [])
    (hdot : rest.head? ≠ some '.') :
    cutPatch? (blanks ++ ((Spelling.mk major minor (some patch)).chars ++ rest)) =
      some ((Spelling.mk major minor none).chars, rest) := by
  have hnil : ((Spelling.mk major minor (some patch)).chars ++ rest).takeWhile Text.isPlainBlank = [] := by
    rw [Spelling.chars, List.append_assoc]
    exact major.takeWhile_blank _ fun _ => Text.isBlank_of_isPlainBlank
  have htake := Text.takeWhile_run patch.isDigit_of_mem hdigit
  have hdrop := Text.dropWhile_run patch.isDigit_of_mem hdigit
  have hchars : (Spelling.mk major minor (some patch)).chars ++ rest =
      major.chars ++ '.' :: (minor.chars ++ '.' :: (patch.chars ++ rest)) := by
    simp [Spelling.chars, Spelling.patchChars]
  rw [cutPatch?, Text.dropWhile_run hblanks hnil, hchars, majorMinor?_append _ _ (by rfl)]
  simp [htake, hdrop, patch.ne_nil, hdot, Spelling.chars, Spelling.patchChars]

/-- A version that lost its patch has none to lose. -/
theorem cutPatch?_bare {rest : List Char} (major minor : DigitRun)
    (hdigit : rest.takeWhile Text.isDigit = []) (hdot : rest.head? ≠ some '.') :
    cutPatch? ((Spelling.mk major minor none).chars ++ rest) = none := by
  have hchars : (Spelling.mk major minor none).chars ++ rest =
      major.chars ++ '.' :: (minor.chars ++ rest) := by
    simp [Spelling.chars, Spelling.patchChars]
  have hnil := major.takeWhile_blank ('.' :: (minor.chars ++ rest)) fun _ => Text.isBlank_of_isPlainBlank
  rw [cutPatch?, hchars, Text.dropWhile_of_takeWhile_eq_nil hnil, majorMinor?_append _ _ hdigit]
  split
  next heq =>
    simp only [Option.some.injEq, Prod.mk.injEq] at heq
    obtain ⟨_, _, rfl⟩ := heq
    exact absurd rfl hdot
  next => rfl

namespace Stripped

theorem exists_of_append {cs front left : List Char} (h : Stripped cs (front ++ left))
    (hfront : ∀ c ∈ front, isOperatorChar c = false) :
    ∃ rest, cs = front ++ rest ∧ Stripped rest left := by
  induction front generalizing cs with
  | nil => exact ⟨cs, rfl, h⟩
  | cons c others ih =>
    have hc := hfront c (by simp)
    generalize hkept : c :: others ++ left = kept at h
    -- What is cut or kept begins with an operator, and there is none in `front`.
    have not_run {run after : List Char} (hne : run ≠ []) (hrun : ∀ d ∈ run, isOperatorChar d = true)
        (heq : c :: others ++ left = run ++ after) : False := by
      obtain ⟨d, more, rfl⟩ := List.exists_cons_of_ne_nil hne
      rw [List.cons_append, List.cons_append, List.cons.injEq] at heq
      rw [heq.1, hrun d (by simp)] at hc
      cases hc
    cases h with
    | nil => cases hkept
    | @other d rest after _ tail =>
      rw [List.cons_append, List.cons.injEq] at hkept
      obtain ⟨rfl, rfl⟩ := hkept
      obtain ⟨rest', rfl, hrest⟩ := ih tail fun d hd => hfront d (List.mem_cons_of_mem c hd)
      exact ⟨rest', rfl, hrest⟩
    | cut hne hrun | keep hne hrun => exact (not_run hne hrun hkept).elim

/-- Where no patch is dropped first, what is left does not start with one either. -/
theorem cutPatch?_eq_none {rest left : List Char} (h : Stripped rest left)
    (hcut : cutPatch? rest = none) : cutPatch? left = none := by
  cases hleft : cutPatch? left with
  | none => rfl
  | some found =>
    obtain ⟨version, tail⟩ := found
    obtain ⟨blanks, major, minor, patch, hblanks, _, rfl, hdigit, hdot⟩ :=
      exists_of_cutPatch?_eq_some hleft
    rw [← List.append_assoc] at h
    obtain ⟨after, rfl, hafter⟩ := h.exists_of_append fun c hc =>
      not_isOperatorChar_of_mem_version (fun d hd => Text.isBlank_of_isPlainBlank (hblanks d hd)) hc
    rw [Text.takeWhile_eq_nil_iff, hafter.head?_eq, ← Text.takeWhile_eq_nil_iff] at hdigit
    rw [hafter.head?_eq] at hdot
    rw [List.append_assoc, cutPatch?_append major minor patch hblanks hdigit hdot] at hcut
    cases hcut

/-- What is left of a text has no patch to drop. -/
theorem stripPatches_eq_self {cs left : List Char} (h : Stripped cs left) : stripPatches left = left := by
  induction h with
  | nil => exact stripPatches_nil
  | other hc _ ih => rw [stripPatches_cons_of_false _ hc, ih]
  | @cut run blanks rest left major minor patch hne hrun _ hdigit hdot tail ih =>
    have hversion : ∀ c ∈ (Spelling.mk major minor none).chars, isOperatorChar c = false :=
      fun c hc => not_isOperatorChar (.inr (Spelling.mem_chars hc))
    have hnone : ((Spelling.mk major minor none).chars ++ left).takeWhile isOperatorChar = [] :=
      Text.takeWhile_eq_nil_iff.mpr fun c hc => by
        rw [List.head?_append_of_ne_nil _ (by simp [Spelling.chars])] at hc
        exact hversion c (List.mem_of_mem_head? hc)
    rw [Text.takeWhile_eq_nil_iff, ← tail.head?_eq, ← Text.takeWhile_eq_nil_iff] at hdigit
    rw [← tail.head?_eq] at hdot
    rw [stripPatches_run hne hrun hnone (cutPatch?_bare major minor hdigit hdot),
      stripPatches_append left hversion, ih]
  | @keep run rest left hne hrun hrest hcut tail ih =>
    rw [Text.takeWhile_eq_nil_iff, ← tail.head?_eq, ← Text.takeWhile_eq_nil_iff] at hrest
    rw [stripPatches_run hne hrun hrest (tail.cutPatch?_eq_none hcut), ih]

end Stripped

theorem stripPatches_stripPatches (cs : List Char) :
    stripPatches (stripPatches cs) = stripPatches cs :=
  (stripped_stripPatches cs).stripPatches_eq_self

/-- Normalizing leaves every token of a text as it is. -/
def Settled (plain : List Char) : Prop :=
  ∀ token ∈ Text.commaPieces plain, normalizeChars token = .ok token

theorem settled_of_token {token : List Char} (hcomma : ',' ∉ token)
    (h : normalizeChars token = .ok token) : Settled token := by
  have hpieces : Text.commaPieces token = [token] :=
    Text.pieces_eq_singleton fun c hc => by
      simpa using fun heq : c = ',' => hcomma (heq ▸ hc)
  rw [Settled, hpieces, List.forall_mem_singleton]
  exact h

theorem settled_chars {clause : Clause} (h : normalizeChars clause.chars = .ok clause.chars) :
    Settled clause.chars :=
  settled_of_token (fun hc => Clause.ne_comma_of_mem_chars hc rfl) h

theorem Settled.append {first second : List Char} (h : Settled first) (h' : Settled second) :
    Settled (first ++ ',' :: second) := by
  rw [Settled, Text.commaPieces, Text.pieces_append_separator _ _ (by rfl)]
  exact List.forall_mem_append.mpr ⟨h, h'⟩

theorem settled_intercalate {texts : List (List Char)} (hne : texts ≠ [])
    (h : ∀ text ∈ texts, Settled text) : Settled (List.intercalate [','] texts) := by
  rw [Settled, Text.commaPieces_intercalate hne]
  intro token htoken
  obtain ⟨text, htext, htoken⟩ := List.mem_flatMap.mp htoken
  exact h text htext token htoken

theorem settled_bareChars (operator : Operator) (version : Spelling)
    (h : operator.isPrimitive = true) : Settled (bareChars operator version) := by
  let clause : Clause := .comparison operator [] ⟨version.major, version.minor, none⟩
    fun _ => List.not_mem_nil.elim
  have hform : clause.form? = some (formOf operator ⟨version.major, version.minor, none⟩) := rfl
  have hnormal : normalizeChars clause.chars = .ok clause.chars := by
    rw [normalizeChars_chars, hform]
    exact expand_formOf _ h
  exact settled_chars hnormal

theorem settled_rangeChars (lower upper : ℕ ×ₗ ℕ) : Settled (rangeChars lower upper) :=
  (settled_bareChars .ge (.ofLine lower) rfl).append
    (settled_bareChars .lt (.ofLine upper) rfl)

theorem settled_of_form {clause : Clause} {form : Form} {plain : List Char}
    (hform : clause.form? = some form) (h : form.expand = .ok plain) : Settled plain := by
  rcases expand_cases hform h with ⟨lower, upper, rfl⟩ | ⟨operator, version, hprimitive, rfl⟩
  · exact settled_rangeChars lower upper
  · exact settled_bareChars operator version hprimitive

/-- A token settles once it is normalized, whether or not it has a known form. -/
theorem settled_of_normalizeChars {token plain : List Char} (hcomma : ',' ∉ token)
    (h : normalizeChars token = .ok plain) : Settled plain := by
  rw [← normalizeChars_trim] at h
  by_cases hclause : ∃ clause : Clause, clause.chars = Text.trim token
  · obtain ⟨clause, hchars⟩ := hclause
    rw [← hchars, normalizeChars_chars] at h
    cases hform : clause.form? with
    | some form =>
      rw [hform] at h
      exact settled_of_form hform h
    | none =>
      rw [hform] at h
      -- A caret or a tilde with an odd blank behind it stays as it is written.
      obtain rfl := Except.ok.inj h
      exact settled_chars (by rw [normalizeChars_chars, hform])
  · rw [normalizeChars_of_not_clause (Text.trim_trim token) fun clause hc => hclause ⟨clause, hc⟩] at h
    -- What is left of a text that is no clause is no clause either.
    obtain rfl := Except.ok.inj h
    refine settled_of_token (fun hc => hcomma ?_) ?_
    · exact (Text.trim_infix token).subset (mem_of_mem_stripPatches hc)
    · rw [normalizeChars_of_not_clause (trim_stripPatches (Text.trim_trim token)) fun clause hc =>
        hclause (exists_of_stripPatches_eq_chars hc.symm), stripPatches_stripPatches]

end Token

namespace Expression

theorem mapM_normalizeChars_trim (cs : List Char) :
    (Text.commaPieces (Text.trim cs)).mapM Token.normalizeChars =
      (Text.commaPieces cs).mapM Token.normalizeChars := by
  rw [← Token.normalizeChars_comp_trim, ← List.mapM_map, ← List.mapM_map,
    Text.map_trim_commaPieces_trim]

theorem normalizeChars_of_settled {plain : List Char} (h : Token.Settled plain) :
    normalizeChars plain = .ok plain := by
  have hpieces : (Text.commaPieces plain).mapM Token.normalizeChars = .ok (Text.commaPieces plain) :=
    mapM_eq_ok_iff.mpr (List.forall₂_same.mpr h)
  rw [normalizeChars, mapM_normalizeChars_trim, hpieces]
  exact congrArg Except.ok (Text.intercalate_commaPieces plain)

theorem settled_of_normalizeChars {cs plain : List Char} (h : normalizeChars cs = .ok plain) :
    Token.Settled plain := by
  obtain ⟨plains, hplains, rfl⟩ := except_map_eq_ok_iff.mp h
  have hne : plains ≠ [] := by
    rintro rfl
    exact Text.pieces_ne_nil _ _ (List.forall₂_nil_right_iff.mp (mapM_eq_ok_iff.mp hplains))
  apply Token.settled_intercalate hne
  intro part hpart
  obtain ⟨piece, hpiece, hnormal⟩ := exists_of_mem_mapM hplains hpart
  have hcomma : ',' ∉ piece := fun hc => by
    simpa using Text.eq_false_of_mem_pieces hpiece hc
  exact Token.settled_of_normalizeChars hcomma hnormal

/-- Normalizing an expression a second time changes nothing. -/
theorem normalize_of_normalize {expression plain : String} (h : normalize expression = .ok plain) :
    normalize plain = .ok plain := by
  obtain ⟨cs, hcs, rfl⟩ := except_map_eq_ok_iff.mp h
  rw [normalize, String.toList_ofList, normalizeChars_of_settled (settled_of_normalizeChars hcs)]
  rfl

theorem normalize_residue_again :
    normalize " ^3.10 ,>= 3.9.2 rc,,x< 3.13.0" = .ok ">=3.10,<4.0,>=3.9 rc,,x<3.13" ∧
      normalize ">=3.10,<4.0,>=3.9 rc,,x<3.13" = .ok ">=3.10,<4.0,>=3.9 rc,,x<3.13" := by
  have hfirst : normalize " ^3.10 ,>= 3.9.2 rc,,x< 3.13.0" = .ok ">=3.10,<4.0,>=3.9 rc,,x<3.13" := by
    decide +kernel
  exact ⟨hfirst, normalize_of_normalize hfirst⟩

end Expression

end ReleaseLines
