import ReleaseLines.Proofs.Constraint.Form

namespace ReleaseLines.Token

theorem not_isOperatorChar {c : Char}
    (h : Text.isBlank c = true ∨ Text.isDigit c = true ∨ c = '.') : isOperatorChar c = false := by
  by_contra hop
  simp only [isOperatorChar, Bool.not_eq_false, List.contains_eq_mem, List.mem_cons,
    List.not_mem_nil, or_false, decide_eq_true_eq] at hop
  rcases hop with rfl | rfl | rfl | rfl | rfl | rfl <;> revert h <;> decide

theorem isBlank_of_isOperatorChar {c : Char} (h : isOperatorChar c = true) :
    Text.isBlank c = false := by
  by_contra hb
  rw [not_isOperatorChar (.inl (by simpa using hb))] at h
  exact Bool.false_ne_true h

theorem isOperatorChar_of_mem_symbol {operator : Operator} {c : Char}
    (h : c ∈ operator.symbol.toList) : isOperatorChar c = true := by
  cases operator <;> simp [Operator.symbol] at h <;> (try rcases h with rfl | rfl) <;>
    simp_all [isOperatorChar]

theorem not_isOperatorChar_of_mem_version {blanks : List Char} {version : Spelling} {c : Char}
    (hblank : ∀ c ∈ blanks, Text.isBlank c = true) (h : c ∈ blanks ++ version.chars) :
    isOperatorChar c = false := by
  rcases List.mem_append.mp h with h | h
  · exact not_isOperatorChar (.inl (hblank c h))
  · exact not_isOperatorChar (.inr (Spelling.mem_chars h))

theorem takeWhile_isOperatorChar_eq_nil {cs : List Char}
    (h : ∀ c ∈ cs, isOperatorChar c = false) : cs.takeWhile isOperatorChar = [] :=
  Text.takeWhile_eq_nil_iff.mpr fun c hc => h c (List.mem_of_mem_head? hc)

/-- A patch is cut off a version where neither a digit nor a dot follows it. -/
theorem exists_of_cutPatch?_eq_some {cs version tail : List Char}
    (h : cutPatch? cs = some (version, tail)) :
    ∃ (blanks : List Char) (major minor patch : DigitRun),
      (∀ c ∈ blanks, Text.isPlainBlank c = true) ∧ version = (Spelling.mk major minor none).chars ∧
      cs = blanks ++ ((Spelling.mk major minor (some patch)).chars ++ tail) ∧
      tail.takeWhile Text.isDigit = [] ∧ tail.head? ≠ some '.' := by
  unfold cutPatch? at h
  split at h
  next a b rest hm =>
    simp only at h
    split at h
    · cases h
    next hne =>
      simp only [Bool.or_eq_true, List.isEmpty_iff, beq_iff_eq, not_or] at hne
      obtain ⟨rfl, rfl⟩ := Prod.mk.inj (Option.some.inj h)
      obtain ⟨major, minor, rfl, rfl, _, hcs⟩ := exists_of_majorMinor?_eq_some hm
      obtain ⟨patch, hpatch⟩ := DigitRun.exists_of_takeWhile hne.1
      refine ⟨cs.takeWhile Text.isPlainBlank, major, minor, patch,
        fun _ => List.mem_takeWhile_imp, ?_, ?_, Text.takeWhile_dropWhile_eq_nil rest, hne.2⟩
      · simp [Spelling.chars, Spelling.patchChars]
      · simp only [Spelling.chars, Spelling.patchChars, hpatch, List.append_assoc, List.cons_append,
          List.takeWhile_append_dropWhile]
        rw [← hcs, List.takeWhile_append_dropWhile]
  next => cases h

theorem stripPatches_nil : stripPatches [] = [] := by
  rw [stripPatches]

theorem stripPatches_cons_of_false {c : Char} (rest : List Char) (h : isOperatorChar c = false) :
    stripPatches (c :: rest) = c :: stripPatches rest := by
  rw [stripPatches, if_neg (by simp [h])]

theorem stripPatches_of_cut {cs version tail : List Char} (hne : cs.takeWhile isOperatorChar ≠ [])
    (h : cutPatch? (cs.dropWhile isOperatorChar) = some (version, tail)) :
    stripPatches cs = cs.takeWhile isOperatorChar ++ version ++ stripPatches tail := by
  cases cs with
  | nil => simp at hne
  | cons c rest =>
    have hc : isOperatorChar c = true := by
      by_contra hc
      exact hne (List.takeWhile_cons_of_neg hc)
    rw [stripPatches, if_pos hc]
    simp only
    split
    next v t heq =>
      rw [h] at heq
      obtain ⟨rfl, rfl⟩ := Prod.mk.inj (Option.some.inj heq)
      rfl
    next heq =>
      rw [h] at heq
      cases heq

theorem stripPatches_of_no_cut {cs : List Char} (hne : cs.takeWhile isOperatorChar ≠ [])
    (h : cutPatch? (cs.dropWhile isOperatorChar) = none) :
    stripPatches cs =
      cs.takeWhile isOperatorChar ++ stripPatches (cs.dropWhile isOperatorChar) := by
  cases cs with
  | nil => simp at hne
  | cons c rest =>
    have hc : isOperatorChar c = true := by
      by_contra hc
      exact hne (List.takeWhile_cons_of_neg hc)
    rw [stripPatches, if_pos hc]
    simp only
    split
    next v t heq =>
      rw [h] at heq
      cases heq
    next => rfl

theorem stripPatches_eq_self {cs : List Char} (h : ∀ c ∈ cs, isOperatorChar c = false) :
    stripPatches cs = cs := by
  induction cs with
  | nil => exact stripPatches_nil
  | cons c rest ih =>
    rw [stripPatches_cons_of_false rest (h c (by simp)),
      ih fun d hd => h d (List.mem_cons_of_mem c hd)]

/-- What is left of a text when the patches behind its operator runs are dropped. -/
inductive Stripped : List Char → List Char → Prop
  | nil : Stripped [] []
  | other {c : Char} {rest left : List Char} (hc : isOperatorChar c = false)
      (tail : Stripped rest left) : Stripped (c :: rest) (c :: left)
  | cut {run blanks rest left : List Char} {major minor patch : DigitRun} (hne : run ≠ [])
      (hrun : ∀ c ∈ run, isOperatorChar c = true) (hblanks : ∀ c ∈ blanks, Text.isPlainBlank c = true)
      (hdigit : rest.takeWhile Text.isDigit = []) (hdot : rest.head? ≠ some '.')
      (tail : Stripped rest left) :
      Stripped (run ++ (blanks ++ ((Spelling.mk major minor (some patch)).chars ++ rest)))
        (run ++ ((Spelling.mk major minor none).chars ++ left))
  | keep {run rest left : List Char} (hne : run ≠ [])
      (hrun : ∀ c ∈ run, isOperatorChar c = true) (hrest : rest.takeWhile isOperatorChar = [])
      (hcut : cutPatch? rest = none) (tail : Stripped rest left) : Stripped (run ++ rest) (run ++ left)

theorem stripped_stripPatches (cs : List Char) : Stripped cs (stripPatches cs) := by
  induction hn : cs.length using Nat.strongRecOn generalizing cs with
  | ind n ih =>
    subst hn
    cases cs with
    | nil =>
      rw [stripPatches_nil]
      exact .nil
    | cons c rest =>
      cases hc : isOperatorChar c with
      | false =>
        rw [stripPatches_cons_of_false rest hc]
        exact .other hc (ih _ (by simp) rest rfl)
      | true =>
        have hne : (c :: rest).takeWhile isOperatorChar ≠ [] := by simp [hc]
        have hrun : ∀ d ∈ (c :: rest).takeWhile isOperatorChar, isOperatorChar d = true :=
          fun _ => List.mem_takeWhile_imp
        have hshort : ((c :: rest).dropWhile isOperatorChar).length < (c :: rest).length :=
          dropWhile_isOperatorChar_length_lt hc
        cases hcut : cutPatch? ((c :: rest).dropWhile isOperatorChar) with
        | none =>
          have key := Stripped.keep hne hrun (Text.takeWhile_dropWhile_eq_nil _) hcut
            (ih _ hshort _ rfl)
          rwa [List.takeWhile_append_dropWhile, ← stripPatches_of_no_cut hne hcut] at key
        | some found =>
          obtain ⟨version, tail⟩ := found
          have hlength := cutPatch?_length hcut
          obtain ⟨blanks, major, minor, patch, hblanks, hversion, hcs, hdigit, hdot⟩ :=
            exists_of_cutPatch?_eq_some hcut
          have hrest := ih tail.length (by omega) tail rfl
          rw [stripPatches_of_cut hne hcut, hversion, List.append_assoc]
          conv => arg 1; rw [← List.takeWhile_append_dropWhile (p := isOperatorChar) (l := c :: rest), hcs]
          exact .cut hne hrun hblanks hdigit hdot hrest

namespace Stripped

theorem head?_eq {cs left : List Char} (h : Stripped cs left) : left.head? = cs.head? := by
  cases h with
  | nil | other => rfl
  | cut hne | keep hne => simp [List.head?_append_of_ne_nil _ hne]

theorem sublist {cs left : List Char} (h : Stripped cs left) : left.Sublist cs := by
  induction h with
  | nil => exact .refl _
  | other _ _ ih => exact ih.cons_cons _
  | @cut run blanks rest left major minor patch _ _ _ _ _ _ ih =>
    have hversion : (Spelling.mk major minor none).chars.Sublist
        (Spelling.mk major minor (some patch)).chars := by
      simp [Spelling.chars, Spelling.patchChars]
    exact (List.Sublist.refl run).append ((hversion.append ih).trans (List.sublist_append_right _ _))
  | @keep run _ _ _ _ _ _ _ ih => exact (List.Sublist.refl run).append ih

theorem filter_isOperatorChar {cs left : List Char} (h : Stripped cs left) :
    left.filter isOperatorChar = cs.filter isOperatorChar := by
  have version_none (version : Spelling) : version.chars.filter isOperatorChar = [] :=
    List.filter_eq_nil_iff.mpr fun c hc => by
      simp [not_isOperatorChar (.inr (Spelling.mem_chars hc))]
  induction h with
  | nil => rfl
  | other hc _ ih => rw [List.filter_cons, List.filter_cons, ih]
  | @cut run blanks _ _ _ _ _ _ _ hblanks _ _ _ ih =>
    have hnone : blanks.filter isOperatorChar = [] :=
      List.filter_eq_nil_iff.mpr fun c hc => by
        simp [not_isOperatorChar (.inl (Text.isBlank_of_isPlainBlank (hblanks c hc)))]
    simp only [List.filter_append, version_none, hnone, ih, List.nil_append]
  | keep _ _ _ _ _ ih => rw [List.filter_append, List.filter_append, ih]

theorem eq_nil_iff {cs left : List Char} (h : Stripped cs left) : left = [] ↔ cs = [] := by
  rw [← List.head?_eq_none_iff, h.head?_eq, List.head?_eq_none_iff]

/-- Where no blank ends a text, none ends what is left of it. -/
theorem not_isBlank_getLast {cs left : List Char} (h : Stripped cs left)
    (hlast : ∀ c, cs.getLast? = some c → Text.isBlank c = false) {c : Char}
    (hc : left.getLast? = some c) : Text.isBlank c = false := by
  -- What stands before the rest ends the text only where nothing is left of the rest.
  have append (before kept : List Char) {rest left : List Char} (tail : Stripped rest left)
      (ih : (∀ d, rest.getLast? = some d → Text.isBlank d = false) →
        left.getLast? = some c → Text.isBlank c = false)
      (hlast : ∀ d, (before ++ rest).getLast? = some d → Text.isBlank d = false)
      (hkept : rest = [] → kept.getLast? = some c → Text.isBlank c = false)
      (hc : (kept ++ left).getLast? = some c) : Text.isBlank c = false := by
    by_cases hleft : left = []
    · rw [hleft, List.append_nil] at hc
      exact hkept (tail.eq_nil_iff.mp hleft) hc
    · rw [List.getLast?_append_of_ne_nil _ (mt tail.eq_nil_iff.mpr hleft)] at hlast
      rw [List.getLast?_append_of_ne_nil _ hleft] at hc
      exact ih hlast hc
  induction h with
  | nil => cases hc
  | @other d rest left _ tail ih =>
    refine append [d] [d] tail ih hlast (fun hrest hd => hlast c ?_) hc
    rw [hrest]
    exact hd
  | @cut run blanks rest left major minor patch _ _ _ _ _ tail ih =>
    refine append (run ++ (blanks ++ (Spelling.mk major minor (some patch)).chars))
      (run ++ (Spelling.mk major minor none).chars) tail ih (by simpa using hlast)
      (fun _ hd => ?_) (by simpa using hc)
    rw [List.getLast?_append_of_ne_nil _ (by simp [Spelling.chars])] at hd
    exact Text.isBlank_of_isDigit (Spelling.isDigit_of_getLast? hd)
  | @keep run rest left _ hrun _ _ tail ih =>
    exact append run run tail ih hlast
      (fun _ hd => isBlank_of_isOperatorChar (hrun c (List.mem_of_getLast? hd))) hc

theorem eq_self {cs left : List Char} (h : Stripped cs left)
    (hcs : cs.filter isOperatorChar = []) : left = cs := by
  have not_run {run rest : List Char} (hne : run ≠ []) (hrun : ∀ c ∈ run, isOperatorChar c = true) :
      (run ++ rest).filter isOperatorChar ≠ [] := by
    rw [List.filter_append, List.filter_eq_self.mpr hrun]
    simp [hne]
  induction h with
  | nil => rfl
  | other hc _ ih =>
    rw [List.filter_cons_of_neg (by simp [hc])] at hcs
    rw [ih hcs]
  | cut hne hrun | keep hne hrun => exact absurd hcs (not_run hne hrun)

end Stripped

theorem trim_stripPatches {cs : List Char} (h : Text.trim cs = cs) :
    Text.trim (stripPatches cs) = stripPatches cs := by
  have hs := stripped_stripPatches cs
  refine Text.trim_eq_self (fun c hc => ?_) fun c hc => hs.not_isBlank_getLast (fun d hd => ?_) hc
  · rw [hs.head?_eq, ← h] at hc
    exact Text.head?_trim hc
  · rw [← h] at hd
    exact Text.getLast?_trim hd

theorem stripPatches_ne_nil {cs : List Char} (h : cs ≠ []) : stripPatches cs ≠ [] :=
  mt (stripped_stripPatches cs).eq_nil_iff.mp h

theorem mem_of_mem_stripPatches {c : Char} {cs : List Char} (h : c ∈ stripPatches cs) : c ∈ cs :=
  (stripped_stripPatches cs).sublist.subset h

theorem cons_symbol (operator : Operator) :
    ∃ c rest, operator.symbol.toList = c :: rest ∧ isOperatorChar c = true := by
  obtain ⟨c, rest, h⟩ := List.exists_cons_of_ne_nil
    (show operator.symbol.toList ≠ [] by cases operator <;> simp [Operator.symbol])
  have hc : c ∈ operator.symbol.toList := by simp [h]
  exact ⟨c, rest, h, isOperatorChar_of_mem_symbol hc⟩

/-- What was left behind a run of operator characters stood behind that run, with its patch or as it
is. -/
theorem Stripped.run_cases {cs run left : List Char} (h : Stripped cs (run ++ left)) (hne : run ≠ [])
    (hrun : ∀ c ∈ run, isOperatorChar c = true) (hleft : left.takeWhile isOperatorChar = []) :
    (∃ rest, cs = run ++ rest ∧ cutPatch? rest = none ∧ Stripped rest left) ∨
      ∃ (blanks rest after : List Char) (major minor patch : DigitRun),
        cs = run ++ (blanks ++ ((Spelling.mk major minor (some patch)).chars ++ rest)) ∧
        left = (Spelling.mk major minor none).chars ++ after ∧
        (∀ c ∈ blanks, Text.isPlainBlank c = true) ∧ rest.takeWhile Text.isDigit = [] ∧
        rest.head? ≠ some '.' ∧ Stripped rest after := by
  obtain ⟨d, others, hd⟩ := List.exists_cons_of_ne_nil hne
  generalize hkept : run ++ left = kept at h
  cases h with
  | nil => simp [hd] at hkept
  | other hc =>
    rw [hd, List.cons_append, List.cons.injEq] at hkept
    rw [← hkept.1, hrun d (by simp [hd])] at hc
    cases hc
  | @cut run' blanks rest after major minor patch _ hrun' hblanks hdigit hdot tail =>
    have hversion : ((Spelling.mk major minor none).chars ++ after).takeWhile isOperatorChar = [] :=
      Text.takeWhile_eq_nil_iff.mpr fun c hc => by
        rw [List.head?_append_of_ne_nil _ (by simp [Spelling.chars])] at hc
        exact not_isOperatorChar (.inr (.inl (Spelling.isDigit_of_head? hc)))
    obtain ⟨rfl, hafter⟩ := Text.run_append_inj hrun hleft hrun' hversion hkept
    exact .inr ⟨blanks, rest, after, major, minor, patch, rfl, hafter, hblanks, hdigit, hdot, tail⟩
  | @keep run' rest after _ hrun' hrest hcut tail =>
    have hafter : after.takeWhile isOperatorChar = [] :=
      Text.takeWhile_eq_nil_iff.mpr fun c hc => by
        rw [tail.head?_eq] at hc
        exact Text.takeWhile_eq_nil_iff.mp hrest c hc
    obtain ⟨rfl, rfl⟩ := Text.run_append_inj hrun hleft hrun' hafter hkept
    exact .inl ⟨rest, rfl, hcut, tail⟩

/-- Every part is an operator, blanks, two numbers and an ending, which starts with a dot if there
is one. -/
theorem exists_ending (clause : Clause) :
    ∃ (operator : Operator) (blanks ending : List Char) (major minor : DigitRun),
      clause.chars = operator.symbol.toList ++ (blanks ++ ((Spelling.mk major minor none).chars ++ ending)) ∧
      (∀ c ∈ blanks, Text.isBlank c = true) ∧ (ending = [] ∨ ending.head? = some '.') ∧
      ∀ c ∈ ending, isOperatorChar c = false := by
  cases clause with
  | comparison operator blanks version blank =>
    refine ⟨operator, blanks, Spelling.patchChars version.patch, version.major, version.minor,
      by simp [Clause.chars, Spelling.chars, Spelling.patchChars], blank, ?_, fun c hc => ?_⟩
    · cases version.patch with
      | none => exact .inl rfl
      | some run => exact .inr rfl
    · exact not_isOperatorChar (.inr (Spelling.mem_patchChars hc))
  | wildcard blanks major minor plain =>
    exact ⟨.eq, blanks, ['.', '*'], major, minor,
      by simp [Clause.chars, Spelling.chars, Spelling.patchChars],
      fun c hc => Text.isBlank_of_isPlainBlank (plain c hc), .inr rfl, by simp [isOperatorChar]⟩

/-- Dropping patches makes no part out of a text that is none. -/
theorem exists_of_stripPatches_eq_chars {cs : List Char} {clause : Clause}
    (h : stripPatches cs = clause.chars) : ∃ other : Clause, other.chars = cs := by
  obtain ⟨operator, blanks, ending, major, minor, hchars, hblanks, hdot, hending⟩ := exists_ending clause
  have hsymbol : ∀ c ∈ operator.symbol.toList, isOperatorChar c = true :=
    fun _ => isOperatorChar_of_mem_symbol
  obtain ⟨d, others, hd, _⟩ := cons_symbol operator
  have hplain : ∀ c ∈ blanks ++ ((Spelling.mk major minor none).chars ++ ending),
      isOperatorChar c = false := by
    intro c hc
    rw [← List.append_assoc] at hc
    rcases List.mem_append.mp hc with hc | hc
    · exact not_isOperatorChar_of_mem_version hblanks hc
    · exact hending c hc
  have hs := stripped_stripPatches cs
  rw [h, hchars] at hs
  rcases hs.run_cases (by simp [hd]) hsymbol (takeWhile_isOperatorChar_eq_nil hplain) with
    ⟨rest, rfl, _, tail⟩ | ⟨plain, rest, after, a, b, patch, rfl, hleft, hblank, hdigit, hrest, tail⟩
  · refine ⟨clause, ?_⟩
    rw [hchars, tail.eq_self]
    rw [← tail.filter_isOperatorChar, List.filter_eq_nil_iff]
    intro c hc
    simp [hplain c hc]
  · -- The version that lost its patch is that of the part, so nothing follows it.
    have not_blank (major minor : DigitRun) (rest : List Char) :
        ((Spelling.mk major minor none).chars ++ rest).takeWhile Text.isBlank = [] := by
      rw [Spelling.chars, List.append_assoc]
      exact major.takeWhile_blank _ fun _ => id
    have hafter : after.takeWhile Text.isDigit = [] := by
      rw [Text.takeWhile_eq_nil_iff, tail.head?_eq, ← Text.takeWhile_eq_nil_iff]
      exact hdigit
    have hdigits : ending.takeWhile Text.isDigit = [] := by
      rw [Text.takeWhile_eq_nil_iff]
      intro c hc
      rcases hdot with rfl | hdot
      · cases hc
      · rw [← Option.some.inj (hdot.symm.trans hc)]
        rfl
    obtain ⟨rfl, hversion⟩ := Text.run_append_inj hblanks (not_blank major minor ending)
      (fun _ => List.not_mem_nil.elim) (not_blank a b after) hleft
    simp only [Spelling.chars, Spelling.patchChars, List.append_nil, List.append_assoc,
      List.cons_append] at hversion
    obtain ⟨_, hdots⟩ := Text.run_append_inj major.isDigit_of_mem (by rfl) a.isDigit_of_mem (by rfl)
      hversion
    obtain ⟨_, rfl⟩ := Text.run_append_inj minor.isDigit_of_mem hdigits b.isDigit_of_mem hafter
      (List.cons.inj hdots).2
    rcases hdot with rfl | hdot
    · obtain rfl := tail.eq_nil_iff.mp rfl
      exact ⟨.comparison operator plain ⟨a, b, some patch⟩
        fun c hc => Text.isBlank_of_isPlainBlank (hblank c hc), by rw [Clause.chars, List.append_nil]⟩
    · rw [tail.head?_eq] at hdot
      exact absurd hdot hrest

theorem exists_of_scan_stripPatches_eq_ok {cs : List Char} {found : Operator × List Char × List Char}
    (h : Segment.scan (stripPatches cs) = .ok found) : ∃ clause : Clause, clause.chars = cs := by
  obtain ⟨operator, a, b⟩ := found
  obtain ⟨blanks, version, hblanks, _, _, hleft⟩ := Segment.exists_of_scan_eq_ok h
  let comparison : Clause := .comparison operator blanks version hblanks
  have hcomparison : stripPatches cs = comparison.chars := hleft
  exact exists_of_stripPatches_eq_chars hcomparison

end ReleaseLines.Token
