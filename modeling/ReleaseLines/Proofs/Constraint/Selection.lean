import ReleaseLines.Proofs.Constraint.Language

namespace ReleaseLines

namespace Constraint

theorem allSatisfiedBy_map {α : Type} (constraint : α → Constraint) {line : String} {bounds : List α}
    {P : α → Bool} (h : ∀ bound ∈ bounds, (constraint bound).isSatisfiedBy line = .ok (P bound)) :
    allSatisfiedBy line (bounds.map constraint) = .ok (bounds.all P) := by
  induction bounds with
  | nil => rfl
  | cons bound rest ih =>
    have hrest := ih fun other ho => h other (List.mem_cons_of_mem bound ho)
    rw [List.map_cons, allSatisfiedBy, h bound (by simp), List.all_cons]
    cases hbound : P bound with
    | false => rfl
    | true => exact hrest

theorem keepSatisfying_map {α : Type} (text : α → String) {lines : List α}
    {found : List Constraint} {P : α → Bool}
    (h : ∀ line ∈ lines, allSatisfiedBy (text line) found = .ok (P line)) :
    keepSatisfying found (lines.map text) = .ok ((lines.filter P).map text) := by
  induction lines with
  | nil => rfl
  | cons line rest ih =>
    have hrest := ih fun other ho => h other (List.mem_cons_of_mem line ho)
    rw [List.map_cons, keepSatisfying, h line (by simp), hrest]
    cases hline : P line with
    | false => rw [List.filter_cons_of_neg (by simp [hline])]; rfl
    | true => rw [List.filter_cons_of_pos hline]; rfl

theorem select_map {α : Type} (text : α → String) {lines : List α} {found : List Constraint}
    {P : α → Bool} (h : ∀ line ∈ lines, allSatisfiedBy (text line) found = .ok (P line)) :
    select (lines.map text) found = .ok ((lines.filter P).map text) := by
  cases found with
  | nil =>
    have hall : ∀ line ∈ lines, P line = true := fun line hline =>
      (Except.ok.inj (h line hline)).symm
    rw [List.filter_eq_self.mpr hall]
    rfl
  | cons c rest => exact keepSatisfying_map text h

theorem keepSatisfying_sublist {found : List Constraint} {lines kept : List String}
    (h : keepSatisfying found lines = .ok kept) : kept.Sublist lines := by
  induction lines generalizing kept with
  | nil =>
    obtain rfl := Except.ok.inj h
    exact .refl []
  | cons line rest ih =>
    obtain ⟨satisfied, _, hrest⟩ := except_bind_eq_ok_iff.mp h
    obtain ⟨others, hothers, hkept⟩ := except_bind_eq_ok_iff.mp hrest
    obtain rfl := Except.ok.inj hkept
    cases satisfied with
    | true => exact (ih hothers).cons_cons line
    | false => exact (ih hothers).cons line

theorem select_sublist {found : List Constraint} {lines selected : List String}
    (h : select lines found = .ok selected) : selected.Sublist lines := by
  rw [select] at h
  split at h
  · obtain rfl := Except.ok.inj h
    exact .refl lines
  · exact keepSatisfying_sublist h

/-- Whether a line is admitted by a constraint; one that cannot be held against it is not. -/
def admitsText (c : Constraint) (line : String) : Bool :=
  match c.isSatisfiedBy line with
  | .ok satisfied => satisfied
  | .error _ => false

theorem admitsText_iff {c : Constraint} {line : String} :
    c.admitsText line = true ↔ c.isSatisfiedBy line = .ok true := by
  rw [admitsText]
  cases c.isSatisfiedBy line with
  | ok satisfied => simp
  | error problem => simp

/-- A line is held against every constraint without a fault where it and all bounds can be read. -/
theorem allSatisfiedBy_of_readable {line : String} {found : List Constraint}
    (hline : ∃ version, Version.read line = .ok version)
    (hfound : ∀ c ∈ found, ∃ version, Version.read c.version = .ok version) :
    allSatisfiedBy line found = .ok (found.all fun c => c.admitsText line) := by
  obtain ⟨version, hversion⟩ := hline
  have hone : ∀ c ∈ found, (id c).isSatisfiedBy line = .ok (c.admitsText line) := by
    intro c hc
    obtain ⟨bound, hbound⟩ := hfound c hc
    rw [id, admitsText, isSatisfiedBy, hversion, hbound]
    rfl
  simpa using allSatisfiedBy_map id hone

theorem select_of_readable {lines : List String} {found : List Constraint}
    (hlines : ∀ line ∈ lines, ∃ version, Version.read line = .ok version)
    (hfound : ∀ c ∈ found, ∃ version, Version.read c.version = .ok version) :
    select lines found = .ok (lines.filter fun line => found.all fun c => c.admitsText line) := by
  simpa using select_map id fun line hline => allSatisfiedBy_of_readable (hlines line hline) hfound

theorem allSatisfiedBy_of_unreadable {line : String} {found : List Constraint} {problem : BadValue}
    (hne : found ≠ []) (h : Version.read line = .error problem) :
    allSatisfiedBy line found = .error problem := by
  obtain ⟨c, rest, rfl⟩ := List.exists_cons_of_ne_nil hne
  rw [allSatisfiedBy, isSatisfiedBy, h]
  rfl

/-- Whatever the constraints, every line is read, and the first that cannot be read is reported. -/
theorem select_eq {found : List Constraint} (hne : found ≠ [])
    (hfound : ∀ c ∈ found, ∃ version, Version.read c.version = .ok version) (lines : List String) :
    select lines found =
      (lines.mapM Version.read).map fun _ =>
        lines.filter fun line => found.all fun c => c.admitsText line := by
  have hsome : found.isEmpty = false := by simpa using hne
  rw [select, if_neg (by simp [hsome])]
  induction lines with
  | nil => rfl
  | cons line rest ih =>
    rw [keepSatisfying, ih, List.mapM_cons]
    cases hline : Version.read line with
    | error problem =>
      rw [allSatisfiedBy_of_unreadable hne hline]
      rfl
    | ok version =>
      rw [allSatisfiedBy_of_readable ⟨version, hline⟩ hfound, List.filter_cons]
      cases rest.mapM Version.read with
      | error problem => rfl
      | ok versions => rfl

theorem exists_select_eq_error_iff {found : List Constraint} (hne : found ≠ [])
    (hfound : ∀ c ∈ found, ∃ version, Version.read c.version = .ok version) {lines : List String} :
    (∃ problem, select lines found = .error problem) ↔
      ∃ line ∈ lines, ∀ version, Version.read line ≠ .ok version := by
  constructor
  · intro herror
    by_contra hnone
    push Not at hnone
    obtain ⟨problem, hproblem⟩ := herror
    rw [select_of_readable hnone hfound] at hproblem
    cases hproblem
  · intro hunreadable
    obtain ⟨line, hline, hversion⟩ := hunreadable
    rw [select_eq hne hfound]
    cases hread : lines.mapM Version.read with
    | error problem => exact ⟨problem, rfl⟩
    | ok versions =>
      obtain ⟨version, hok⟩ := exists_eq_ok_of_mem hread hline
      exact absurd hok (hversion version)

/-- To select by two lists of constraints is to select by one and then by the other. -/
theorem select_append {found other : List Constraint} (hne : found ≠ [])
    (hfoundRead : ∀ c ∈ found, ∃ version, Version.read c.version = .ok version)
    (hotherRead : ∀ c ∈ other, ∃ version, Version.read c.version = .ok version)
    (lines : List String) :
    select lines (found ++ other) = select lines found >>= fun kept => select kept other := by
  have hboth : ∀ c ∈ found ++ other, ∃ version, Version.read c.version = .ok version := by
    intro c hc
    rcases List.mem_append.mp hc with hc | hc
    · exact hfoundRead c hc
    · exact hotherRead c hc
  rw [select_eq (List.append_ne_nil_of_left_ne_nil hne other) hboth, select_eq hne hfoundRead]
  -- The first selection reads all lines, so the second meets none that cannot be read.
  cases hread : lines.mapM Version.read with
  | error problem => rfl
  | ok versions =>
    have hlines : ∀ line ∈ lines.filter (fun line => found.all fun c => c.admitsText line),
        ∃ version, Version.read line = .ok version := by
      intro line hline
      exact exists_eq_ok_of_mem hread (List.mem_of_mem_filter hline)
    have hkept := select_of_readable hlines hotherRead
    rw [List.filter_filter] at hkept
    simp only [List.all_append, Bool.and_comm (found.all _)]
    exact hkept.symm

/-- The order and the repetitions of constraints do not matter. -/
theorem select_congr {found other : List Constraint} (hne : found ≠ [])
    (hfound : ∀ c ∈ found, ∃ version, Version.read c.version = .ok version)
    (h : ∀ c, c ∈ found ↔ c ∈ other) (lines : List String) :
    select lines found = select lines other := by
  obtain ⟨c, hc⟩ := List.exists_mem_of_ne_nil found hne
  have hall (line : String) : found.all (fun c => c.admitsText line) =
      other.all fun c => c.admitsText line := by
    rw [Bool.eq_iff_iff, List.all_eq_true, List.all_eq_true]
    simp only [h]
  rw [select_eq hne hfound, select_eq (List.ne_nil_of_mem ((h c).mp hc))]
  · simp only [hall]
  · intro d hd
    exact hfound d ((h d).mpr hd)

theorem select_again {found : List Constraint} (hne : found ≠ [])
    (hfound : ∀ c ∈ found, ∃ version, Version.read c.version = .ok version)
    {lines kept : List String} (h : select lines found = .ok kept) : select kept found = .ok kept := by
  rw [select_eq hne hfound, except_map_eq_ok_iff] at h
  obtain ⟨versions, hread, rfl⟩ := h
  rw [select_of_readable _ hfound, List.filter_filter]
  · simp only [Bool.and_self]
  · intro line hline
    exact exists_eq_ok_of_mem hread (List.mem_of_mem_filter hline)

theorem mem_selected_iff {lines : List String} {found : List Constraint} {line : String} :
    line ∈ lines.filter (fun line => found.all fun c => c.admitsText line) ↔
      line ∈ lines ∧ ∀ c ∈ found, c.isSatisfiedBy line = .ok true := by
  rw [List.mem_filter, List.all_eq_true]
  simp only [admitsText_iff]

theorem isSatisfiedBy_ofLine {operator : Operator} {bound : ℕ ×ₗ ℕ} {candidate : Spelling}
    (hbound : (Spelling.ofLine bound).IsReadable) (hcandidate : candidate.IsReadable) :
    (ofLine operator bound).isSatisfiedBy candidate.text =
      .ok (decide (operator.Relates candidate.line bound)) := by
  have hversion : Version.read (ofLine operator bound).version = .ok (Version.ofPair bound) := by
    rw [ofLine, Spelling.read_text hbound, Spelling.line_ofLine]
  have hadmits := operator.admits_iff_relates candidate.line bound
  rw [isSatisfiedBy, Spelling.read_text hcandidate, hversion]
  exact congrArg Except.ok (Bool.eq_iff_iff.mpr (hadmits.trans decide_eq_true_iff.symm))

theorem allSatisfiedBy_constraints {clauses : List Clause} {candidate : Spelling}
    (hfits : ∀ clause ∈ clauses, clause.Fits) (hcandidate : candidate.IsReadable) :
    allSatisfiedBy candidate.text (clauses.flatMap Clause.constraints) =
      .ok (decide (∀ clause ∈ clauses, clause.Admits candidate.line)) := by
  have hmap : clauses.flatMap Clause.constraints =
      (clauses.flatMap Clause.bounds).map fun bound => ofLine bound.1 bound.2 :=
    List.map_flatMap.symm
  have hsatisfied : ∀ bound ∈ clauses.flatMap Clause.bounds,
      (ofLine bound.1 bound.2).isSatisfiedBy candidate.text =
        .ok (decide (bound.1.Relates candidate.line bound.2)) := by
    intro bound hbound
    obtain ⟨clause, hclause, hbound⟩ := List.mem_flatMap.mp hbound
    exact isSatisfiedBy_ofLine ((hfits clause hclause).2 bound hbound) hcandidate
  rw [hmap, allSatisfiedBy_map _ hsatisfied, Except.ok.injEq, Bool.eq_iff_iff, List.all_eq_true,
    decide_eq_true_iff]
  simp only [decide_eq_true_iff, ← Clause.forall_bounds_iff_admits, List.mem_flatMap]
  constructor
  · intro h clause hclause bound hbound
    exact h bound ⟨clause, hclause, hbound⟩
  · rintro h bound ⟨clause, hclause, hbound⟩
    exact h clause hclause bound hbound

end Constraint

namespace Expression

/-- The text of a part determines what it is read as. -/
theorem fits_of_map_chars_eq {clauses others : List Clause}
    (h : clauses.map Clause.chars = others.map Clause.chars)
    (hfits : ∀ clause ∈ others, clause.Fits) :
    (∀ clause ∈ clauses, clause.Fits) ∧
      others.flatMap Clause.constraints = clauses.flatMap Clause.constraints := by
  induction clauses generalizing others with
  | nil =>
    obtain rfl := List.map_eq_nil_iff.mp h.symm
    exact ⟨hfits, rfl⟩
  | cons clause rest ih =>
    obtain ⟨other, others, rfl, hchars, hrest⟩ := List.map_eq_cons_iff.mp h.symm
    rw [List.forall_mem_cons] at hfits
    have hread := other.readPart_chars_eq_ok_iff.mpr ⟨hfits.1, rfl⟩
    rw [hchars, clause.readPart_chars_eq_ok_iff] at hread
    obtain ⟨hrestFits, hconstraints⟩ := ih hrest.symm hfits.2
    refine ⟨List.forall_mem_cons.mpr ⟨hread.1, hrestFits⟩, ?_⟩
    rw [List.flatMap_cons, List.flatMap_cons, hread.2, hconstraints]

theorem exists_read_version {expression : String} {found : List Constraint}
    (h : read expression = .ok found) {c : Constraint} (hc : c ∈ found) :
    ∃ version, Version.read c.version = .ok version := by
  obtain ⟨clauses, _, _, hfits, rfl⟩ := read_eq_ok_iff.mp h
  obtain ⟨clause, hclause, hmem⟩ := List.mem_flatMap.mp hc
  obtain ⟨bound, hbound, rfl⟩ := List.mem_map.mp hmem
  exact ⟨_, Spelling.read_text ((hfits clause hclause).2 bound hbound)⟩

/-- An accepted expression keeps the candidates that every part of it admits by its text, in order
and as often as they are given. -/
theorem select_of_read {expression : String} {found : List Constraint}
    (h : read expression = .ok found) :
    (∃ clauses : List Clause, segments expression.toList = clauses.map Clause.chars) ∧
    ∀ clauses : List Clause, segments expression.toList = clauses.map Clause.chars →
      ∀ candidates : List Spelling, (∀ candidate ∈ candidates, candidate.IsReadable) →
        Constraint.select (candidates.map Spelling.text) found =
          .ok ((candidates.filter fun candidate =>
            ∀ clause ∈ clauses, clause.Admits candidate.line).map Spelling.text) := by
  obtain ⟨others, _, hothers, hfits, rfl⟩ := read_eq_ok_iff.mp h
  refine ⟨⟨others, hothers⟩, fun clauses hclauses candidates hreadable => ?_⟩
  obtain ⟨hfits, hconstraints⟩ := fits_of_map_chars_eq (hclauses.symm.trans hothers) hfits
  rw [hconstraints]
  exact Constraint.select_map Spelling.text fun candidate hcandidate =>
    Constraint.allSatisfiedBy_constraints hfits (hreadable candidate hcandidate)

theorem select_of_caret :
    Constraint.select ["3.10", "3.8", "3.10.4", "4.0"] [⟨.ge, "3.10"⟩, ⟨.lt, "4.0"⟩] =
      .ok ["3.10", "3.10.4"] := by
  let caret := Clause.written .caret (toLex (3, 10))
  have hfits : caret.Fits := Clause.fits_of_short fun run h => h.length_le.trans_lt (by decide +kernel)
  have hread : read "^3.10" = .ok [⟨.ge, "3.10"⟩, ⟨.lt, "4.0"⟩] :=
    read_eq_ok_iff.mpr ⟨[caret], by simp, by decide +kernel, by simpa using hfits, by decide +kernel⟩
  let candidates : List Spelling := [.ofLine (toLex (3, 10)), .ofLine (toLex (3, 8)),
    ⟨.ofNat 3, .ofNat 10, some (.ofNat 4)⟩, .ofLine (toLex (4, 0))]
  have hreadable : ∀ candidate ∈ candidates, candidate.IsReadable := by
    unfold Spelling.IsReadable
    decide +kernel
  have hselect := (select_of_read hread).2 [caret] (by decide +kernel) candidates hreadable
  have htexts : candidates.map Spelling.text = ["3.10", "3.8", "3.10.4", "4.0"] := by decide +kernel
  rw [← htexts, hselect]
  exact congrArg _ (by decide +kernel)

end Expression

end ReleaseLines
