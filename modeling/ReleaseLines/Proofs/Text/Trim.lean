import ReleaseLines.Proofs.Text.Pieces
import Mathlib.Data.List.DropRight

namespace ReleaseLines.Text

theorem trim_eq_rdropWhile (cs : List Char) :
    trim cs = (cs.dropWhile isBlank).rdropWhile isBlank := rfl

@[simp] theorem trim_nil : trim [] = [] := rfl

theorem trim_cons_of_blank {c : Char} (rest : List Char) (h : isBlank c = true) :
    trim (c :: rest) = trim rest := by
  rw [trim, List.dropWhile_cons_of_pos h, trim]

theorem trim_concat_of_blank {c : Char} (cs : List Char) (h : isBlank c = true) :
    trim (cs ++ [c]) = trim cs := by
  rw [trim_eq_rdropWhile, trim_eq_rdropWhile, List.dropWhile_append]
  by_cases hc : (cs.dropWhile isBlank).isEmpty = true
  · rw [if_pos hc, List.isEmpty_iff.mp hc]
    simp [h]
  · rw [if_neg hc, List.rdropWhile_concat_pos _ _ _ h]

/-- Blanks around a text are trimmed off whatever else is. -/
theorem trim_surrounded {before cs after : List Char} (hbefore : ∀ c ∈ before, isBlank c = true)
    (hafter : ∀ c ∈ after, isBlank c = true) : trim (before ++ (cs ++ after)) = trim cs := by
  induction before with
  | nil =>
    rw [List.nil_append]
    induction after using List.reverseRecOn with
    | nil => rw [List.append_nil]
    | append_singleton rest c ih =>
      rw [← List.append_assoc, trim_concat_of_blank _ (hafter c (by simp))]
      exact ih fun d hd => hafter d (by simp [hd])
  | cons c rest ih =>
    obtain ⟨hc, hrest⟩ := List.forall_mem_cons.mp hbefore
    rw [List.cons_append, trim_cons_of_blank _ hc, ih hrest]

theorem trim_infix (cs : List Char) : trim cs <:+: cs :=
  (List.rdropWhile_prefix isBlank _).isInfix.trans (List.dropWhile_suffix isBlank).isInfix

theorem isBlankText_of_trimmed {s : String} (h : isBlankText (trimmed s) = false) :
    isBlankText s = false := by
  rw [isBlankText, List.all_eq_false] at h ⊢
  obtain ⟨c, hc, hblank⟩ := h
  rw [trimmed, String.toList_ofList] at hc
  have hinfix : trim s.toList <:+: s.toList := trim_infix s.toList
  exact ⟨c, hinfix.subset hc, hblank⟩

theorem head?_trim {c : Char} {cs : List Char} (h : (trim cs).head? = some c) :
    isBlank c = false := by
  obtain ⟨dropped, hd⟩ := List.rdropWhile_prefix isBlank (cs.dropWhile isBlank)
  have hc : (cs.dropWhile isBlank).head? = some c := by
    rw [← hd, List.head?_append, ← trim_eq_rdropWhile, h, Option.some_or]
  obtain ⟨rest, hr⟩ := List.head?_eq_some_iff.mp hc
  have hnil := takeWhile_dropWhile_eq_nil (p := isBlank) cs
  rw [hr] at hnil
  by_contra hb
  rw [List.takeWhile_cons_of_pos (by simpa using hb)] at hnil
  simp at hnil

theorem getLast?_trim {c : Char} {cs : List Char} (h : (trim cs).getLast? = some c) :
    isBlank c = false := by
  have hne : trim cs ≠ [] := by
    intro hnil
    simp [hnil] at h
  rw [List.getLast?_eq_some_getLast hne, Option.some.injEq] at h
  have hlast := List.rdropWhile_last_not isBlank (cs.dropWhile isBlank) hne
  rw [Bool.not_eq_true] at hlast
  rwa [← h]

/-- A text is trimmed when it neither starts nor ends with a blank. -/
theorem trim_eq_self {cs : List Char} (hhead : ∀ c, cs.head? = some c → isBlank c = false)
    (hlast : ∀ c, cs.getLast? = some c → isBlank c = false) : trim cs = cs := by
  rw [trim_eq_rdropWhile, dropWhile_of_takeWhile_eq_nil (takeWhile_eq_nil_iff.mpr hhead),
    List.rdropWhile_eq_self_iff]
  intro hne
  simp [hlast _ (List.getLast?_eq_some_getLast hne)]

theorem trim_trim (cs : List Char) : trim (trim cs) = trim cs :=
  trim_eq_self (fun _ => head?_trim) fun _ => getLast?_trim

theorem trim_eq_nil_iff {cs : List Char} : trim cs = [] ↔ ∀ c ∈ cs, isBlank c = true := by
  rw [trim_eq_rdropWhile, List.rdropWhile_eq_nil_iff]
  constructor
  · intro h
    rw [← List.dropWhile_eq_nil_iff]
    cases hdrop : cs.dropWhile isBlank with
    | nil => rfl
    | cons c rest =>
      have hnil := takeWhile_dropWhile_eq_nil (p := isBlank) cs
      rw [hdrop, List.takeWhile_cons_of_pos (h c (by simp [hdrop]))] at hnil
      cases hnil
  · intro h c hc
    exact h c ((List.dropWhile_sublist isBlank).subset hc)

theorem beq_comma_of_isBlank {c : Char} (h : isBlank c = true) : (c == ',') = false := by
  by_contra hc
  rw [Bool.not_eq_false, beq_iff_eq] at hc
  subst hc
  simp [isBlank] at h

/-- Blanks before a text do not show in its trimmed pieces. -/
theorem map_trim_commaPieces_dropWhile (cs : List Char) :
    (commaPieces (cs.dropWhile isBlank)).map trim = (commaPieces cs).map trim := by
  induction cs with
  | nil => rfl
  | cons c rest ih =>
    by_cases h : isBlank c = true
    · obtain ⟨piece, others, hp, hcons⟩ :=
        pieces_cons_of_false (p := (· == ',')) rest (beq_comma_of_isBlank h)
      rw [List.dropWhile_cons_of_pos h, ih, commaPieces, hp, commaPieces, hcons, List.map_cons,
        List.map_cons, trim_cons_of_blank piece h]
    · rw [List.dropWhile_cons_of_neg h]

theorem map_trim_commaPieces_rdropWhile (cs : List Char) :
    (commaPieces (cs.rdropWhile isBlank)).map trim = (commaPieces cs).map trim := by
  induction cs using List.reverseRecOn with
  | nil => rfl
  | append_singleton rest c ih =>
    by_cases h : isBlank c = true
    · obtain ⟨initial, last, hp, hconcat⟩ :=
        pieces_concat (p := (· == ',')) rest (beq_comma_of_isBlank h)
      rw [List.rdropWhile_concat_pos _ _ _ h, ih, commaPieces, hp, commaPieces, hconcat,
        List.map_append, List.map_append, List.map_singleton, List.map_singleton,
        trim_concat_of_blank last h]
    · rw [List.rdropWhile_concat_neg _ _ _ h]

theorem map_trim_commaPieces_trim (cs : List Char) :
    (commaPieces (trim cs)).map trim = (commaPieces cs).map trim := by
  rw [trim_eq_rdropWhile, map_trim_commaPieces_rdropWhile, map_trim_commaPieces_dropWhile]

end ReleaseLines.Text
