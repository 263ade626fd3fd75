import ReleaseLines.Text.Blank
import ReleaseLines.Text.Split
import Mathlib.Data.List.TakeWhile

namespace ReleaseLines.Text

variable {p : Char → Bool}

/-- A run of characters that satisfy `p` is what `takeWhile` reads, provided what follows does not
start with such a character. -/
theorem takeWhile_run {run rest : List Char} (hrun : ∀ c ∈ run, p c = true)
    (hrest : rest.takeWhile p = []) : (run ++ rest).takeWhile p = run := by
  rw [List.takeWhile_append_of_pos hrun, hrest, List.append_nil]

theorem dropWhile_of_takeWhile_eq_nil {rest : List Char} (h : rest.takeWhile p = []) :
    rest.dropWhile p = rest := by
  simpa only [h, List.nil_append] using List.takeWhile_append_dropWhile (p := p) (l := rest)

theorem dropWhile_run {run rest : List Char} (hrun : ∀ c ∈ run, p c = true)
    (hrest : rest.takeWhile p = []) : (run ++ rest).dropWhile p = rest := by
  rw [List.dropWhile_append_of_pos hrun, dropWhile_of_takeWhile_eq_nil hrest]

theorem takeWhile_dropWhile_eq_nil (cs : List Char) : (cs.dropWhile p).takeWhile p = [] := by
  induction cs with
  | nil => rfl
  | cons c rest ih =>
    by_cases h : p c = true
    · rwa [List.dropWhile_cons_of_pos h]
    · rw [List.dropWhile_cons_of_neg h, List.takeWhile_cons_of_neg h]

/-- A text is split in one way only into a leading run and the rest. -/
theorem run_append_inj {run run' rest rest' : List Char} (hrun : ∀ c ∈ run, p c = true)
    (hrest : rest.takeWhile p = []) (hrun' : ∀ c ∈ run', p c = true)
    (hrest' : rest'.takeWhile p = []) (h : run ++ rest = run' ++ rest') :
    run = run' ∧ rest = rest' := by
  constructor
  · rw [← takeWhile_run hrun hrest, h, takeWhile_run hrun' hrest']
  · rw [← dropWhile_run hrun hrest, h, dropWhile_run hrun' hrest']

theorem takeWhile_eq_nil_iff {cs : List Char} :
    cs.takeWhile p = [] ↔ ∀ c, cs.head? = some c → p c = false := by
  cases cs with
  | nil => simp
  | cons c rest => simp [List.takeWhile_cons]

theorem pieces_cons_of_true {c : Char} (rest : List Char) (h : p c = true) :
    pieces p (c :: rest) = [] :: pieces p rest := by
  simp [pieces, h]

theorem pieces_cons_of_false {c : Char} (rest : List Char) (h : p c = false) :
    ∃ piece others, pieces p rest = piece :: others ∧
      pieces p (c :: rest) = (c :: piece) :: others := by
  obtain ⟨piece, others, hp⟩ := List.exists_cons_of_ne_nil (pieces_ne_nil p rest)
  exact ⟨piece, others, hp, by simp [pieces, h, hp]⟩

theorem pieces_eq_singleton {cs : List Char} (h : ∀ c ∈ cs, p c = false) : pieces p cs = [cs] := by
  induction cs with
  | nil => rfl
  | cons c rest ih =>
    have hrest := ih fun d hd => h d (List.mem_cons_of_mem c hd)
    simp [pieces, h c (by simp), hrest]

theorem pieces_append_separator {c : Char} (before after : List Char) (h : p c = true) :
    pieces p (before ++ c :: after) = pieces p before ++ pieces p after := by
  induction before with
  | nil => simp [pieces, h]
  | cons d rest ih =>
    rw [List.cons_append]
    cases hd : p d with
    | true => rw [pieces_cons_of_true _ hd, pieces_cons_of_true _ hd, ih, List.cons_append]
    | false =>
      obtain ⟨piece, others, hp, hcons⟩ := pieces_cons_of_false (rest ++ c :: after) hd
      obtain ⟨piece', others', hp', hcons'⟩ := pieces_cons_of_false rest hd
      rw [ih, hp', List.cons_append] at hp
      obtain ⟨rfl, rfl⟩ := List.cons.inj hp
      rw [hcons, hcons', List.cons_append]

/-- A last character that does not separate belongs to the last piece. -/
theorem pieces_concat {c : Char} (cs : List Char) (h : p c = false) :
    ∃ initial last, pieces p cs = initial ++ [last] ∧
      pieces p (cs ++ [c]) = initial ++ [last ++ [c]] := by
  induction cs with
  | nil => exact ⟨[], [], rfl, by simp [pieces, h]⟩
  | cons d rest ih =>
    obtain ⟨initial, last, hp, hconcat⟩ := ih
    cases hd : p d with
    | true =>
      refine ⟨[] :: initial, last, ?_, ?_⟩
      · rw [pieces_cons_of_true _ hd, hp, List.cons_append]
      · rw [List.cons_append, pieces_cons_of_true _ hd, hconcat, List.cons_append]
    | false =>
      cases initial with
      | nil => exact ⟨[], d :: last, by simp [pieces, hd, hp], by simp [pieces, hd, hconcat]⟩
      | cons first others =>
        exact ⟨(d :: first) :: others, last, by simp [pieces, hd, hp],
          by simp [pieces, hd, hconcat]⟩

theorem infix_of_mem_pieces {piece cs : List Char} (h : piece ∈ pieces p cs) : piece <:+: cs := by
  have key : ∀ first others, pieces p cs = first :: others →
      first <+: cs ∧ ∀ other ∈ others, other <:+: cs := by
    clear h
    induction cs with
    | nil =>
      intro first others h
      obtain ⟨rfl, rfl⟩ := List.cons.inj h
      exact ⟨List.prefix_rfl, by simp⟩
    | cons c rest ih =>
      intro first others h
      obtain ⟨piece, tail, hp⟩ := List.exists_cons_of_ne_nil (pieces_ne_nil p rest)
      obtain ⟨hfirst, hothers⟩ := ih piece tail hp
      cases hc : p c with
      | true =>
        rw [pieces_cons_of_true _ hc, hp] at h
        obtain ⟨rfl, rfl⟩ := List.cons.inj h
        refine ⟨List.nil_prefix, fun other ho => ?_⟩
        rcases List.mem_cons.mp ho with rfl | ho
        · exact hfirst.isInfix.trans (List.suffix_cons c rest).isInfix
        · exact (hothers other ho).trans (List.suffix_cons c rest).isInfix
      | false =>
        simp only [pieces, hc, Bool.false_eq_true, ↓reduceIte, hp] at h
        obtain ⟨rfl, rfl⟩ := List.cons.inj h
        exact ⟨List.cons_prefix_cons.mpr ⟨rfl, hfirst⟩,
          fun other ho => (hothers other ho).trans (List.suffix_cons c rest).isInfix⟩
  obtain ⟨first, others, hp⟩ := List.exists_cons_of_ne_nil (pieces_ne_nil p cs)
  obtain ⟨hfirst, hothers⟩ := key first others hp
  rw [hp] at h
  rcases List.mem_cons.mp h with rfl | h
  · exact hfirst.isInfix
  · exact hothers piece h

theorem eq_false_of_mem_pieces {c : Char} {piece cs : List Char} (h : piece ∈ pieces p cs)
    (hc : c ∈ piece) : p c = false := by
  induction cs generalizing piece with
  | nil => simp_all [pieces]
  | cons d rest ih =>
    cases hd : p d with
    | true =>
      rw [pieces_cons_of_true _ hd] at h
      rcases List.mem_cons.mp h with rfl | h
      · simp at hc
      · exact ih h hc
    | false =>
      obtain ⟨first, others, hp, hcons⟩ := pieces_cons_of_false rest hd
      rw [hcons] at h
      rcases List.mem_cons.mp h with rfl | h
      · rcases List.mem_cons.mp hc with rfl | hc
        · exact hd
        · exact ih (by simp [hp]) hc
      · exact ih (by simp [hp, h]) hc

/-- What does not separate is in one of the pieces. -/
theorem exists_piece_of_mem {c : Char} {cs : List Char} (h : c ∈ cs) (hc : p c = false) :
    ∃ piece ∈ pieces p cs, c ∈ piece := by
  induction cs with
  | nil => cases h
  | cons d rest ih =>
    cases hd : p d with
    | true =>
      have hrest : c ∈ rest := (List.mem_cons.mp h).resolve_left (by rintro rfl; simp [hc] at hd)
      obtain ⟨piece, hpiece, hmem⟩ := ih hrest
      exact ⟨piece, by simp [pieces_cons_of_true rest hd, hpiece], hmem⟩
    | false =>
      obtain ⟨first, others, hp, hcons⟩ := pieces_cons_of_false rest hd
      rw [hcons]
      rcases List.mem_cons.mp h with rfl | hrest
      · exact ⟨c :: first, by simp, by simp⟩
      · obtain ⟨piece, hpiece, hmem⟩ := ih hrest
        rw [hp] at hpiece
        rcases List.mem_cons.mp hpiece with rfl | hpiece
        · exact ⟨d :: piece, by simp, List.mem_cons_of_mem d hmem⟩
        · exact ⟨piece, by simp [hpiece], hmem⟩

theorem pieces_eq_splitOnP (p : Char → Bool) (cs : List Char) : pieces p cs = cs.splitOnP p := by
  induction cs with
  | nil => rfl
  | cons c rest ih =>
    cases hc : p c with
    | true => rw [pieces_cons_of_true _ hc, List.splitOnP_cons_eq_if_modifyHead, if_pos hc, ih]
    | false =>
      obtain ⟨piece, others, hp, hcons⟩ := pieces_cons_of_false rest hc
      rw [hcons, List.splitOnP_cons_eq_if_modifyHead, if_neg (by simp [hc]), ← ih, hp]
      rfl

/-- Nothing is lost between the pieces. -/
theorem intercalate_commaPieces (cs : List Char) : List.intercalate [','] (commaPieces cs) = cs := by
  rw [commaPieces, pieces_eq_splitOnP]
  exact List.intercalate_splitOn ','

theorem pieces_intercalate {separator : Char} (h : p separator = true) {texts : List (List Char)}
    (hne : texts ≠ []) :
    pieces p (List.intercalate [separator] texts) = texts.flatMap (pieces p) := by
  induction texts with
  | nil => exact absurd rfl hne
  | cons text rest ih =>
    cases rest with
    | nil => simp [List.intercalate_singleton]
    | cons next others =>
      have hpieces := ih (List.cons_ne_nil next others)
      rw [List.intercalate_cons_cons, List.append_assoc, List.singleton_append, List.flatMap_cons,
        ← hpieces]
      exact pieces_append_separator text _ h

theorem commaPieces_intercalate {texts : List (List Char)} (hne : texts ≠ []) :
    commaPieces (List.intercalate [','] texts) = texts.flatMap commaPieces :=
  pieces_intercalate (by rfl) hne

end ReleaseLines.Text
