import ReleaseLines.Proofs.Matrix.Build

namespace ReleaseLines

open Act

variable {σ τ : Type}

/-- Two lists of readable texts that differ at most in order and repetitions. No two different texts
name the same line. -/
structure Reordered (lines others : List String) : Prop where
  readable : ∀ text ∈ lines, ∃ version, Version.read text = .ok version
  distinct : ∀ first ∈ lines, ∀ second ∈ lines,
    Version.read first = Version.read second → first = second
  same : ∀ text, text ∈ lines ↔ text ∈ others

namespace Reordered

variable {lines others : List String}

theorem symm (h : Reordered lines others) : Reordered others lines where
  readable := by
    intro text htext
    exact h.readable text ((h.same text).mpr htext)
  distinct := by
    intro first hfirst second hsecond
    exact h.distinct first ((h.same first).mpr hfirst) second ((h.same second).mpr hsecond)
  same := fun text => (h.same text).symm

theorem ne_nil (h : Reordered lines others) (hne : lines ≠ []) : others ≠ [] := by
  obtain ⟨line, hline⟩ := List.exists_mem_of_ne_nil lines hne
  exact List.ne_nil_of_mem ((h.same line).mp hline)

theorem sortLines_eq (h : Reordered lines others) : sortLines lines = sortLines others := by
  obtain ⟨sorted, hsorted, hascending, hmem⟩ := sortLines_ascending h.readable h.distinct
  obtain ⟨other, hother, hotherAscending, hotherMem⟩ :=
    sortLines_ascending h.symm.readable h.symm.distinct
  have hsame (line : String) : line ∈ sorted ↔ line ∈ other := by
    rw [hmem, hotherMem, h.same]
  have heq : sorted = other := List.Pairwise.eq_of_mem_iff hascending hotherAscending hsame
  rw [hsorted, hother, heq]

end Reordered

/-- Two lists are sorted into one, which is the only strictly ascending list of their texts. -/
structure SortsTo (lines others sorted : List String) : Prop where
  left : sortLines lines = .ok sorted
  right : sortLines others = .ok sorted
  ascending : Ascending sorted
  nodup : sorted.Nodup
  mem_iff : ∀ text, text ∈ sorted ↔ text ∈ lines
  unique : ∀ list, Ascending list → (∀ text, text ∈ list ↔ text ∈ lines) → list = sorted
  again : sortLines sorted = .ok sorted

namespace Reordered

variable {lines others : List String}

/-- Sorting puts the texts in the one strictly ascending order. -/
theorem exists_sortsTo (h : Reordered lines others) : ∃ sorted, SortsTo lines others sorted := by
  obtain ⟨sorted, hsorted, hascending, hmem⟩ := sortLines_ascending h.readable h.distinct
  have hagain : Reordered lines sorted := ⟨h.readable, h.distinct, fun text => (hmem text).symm⟩
  have hright : sortLines others = .ok sorted := by rw [← h.sortLines_eq, hsorted]
  have hunique (list : List String) (hlist : Ascending list)
      (hlistMem : ∀ text, text ∈ list ↔ text ∈ lines) : list = sorted := by
    apply List.Pairwise.eq_of_mem_iff hlist hascending
    intro text
    rw [hlistMem, hmem]
  have hstable : sortLines sorted = .ok sorted := by rw [← hagain.sortLines_eq, hsorted]
  exact ⟨sorted, hsorted, hright, hascending, hascending.nodup, hmem, hunique, hstable⟩

end Reordered

/-- The same answer, or lines that differ at most in order and repetitions. -/
inductive AnswerReordered : Except Fault (List String) → Except Fault (List String) → Prop
  | same (answer : Except Fault (List String)) : AnswerReordered answer answer
  | lines {lines others : List String} (h : Reordered lines others) :
    AnswerReordered (.ok lines) (.ok others)

namespace Provider

theorem sortedFrom_congr {answer other : Except Fault (List String)}
    (h : AnswerReordered answer other) (source : String) :
    sortedFrom source answer = sortedFrom source other := by
  cases h with
  | same answer => rfl
  | lines h => rw [sortedFrom, sortedFrom, h.sortLines_eq]

/-- Providers that support the same lines lead to the same candidates. What they fall back on
matters only where they are not asked or support none. -/
theorem candidates_congr {provider : Provider σ} {other : Provider τ} {state : σ} {state' : τ}
    {lines others : List String} (h : Reordered lines others)
    (hlines : (provider.supported state).result = .ok lines)
    (hothers : (other.supported state').result = .ok others) (offline : Bool)
    (hfallback : offline = true ∨ lines = [] →
      AnswerReordered (provider.fallbackAnswer offline state)
        (other.fallbackAnswer offline state')) :
    (provider.candidates offline state).result = (other.candidates offline state').result := by
  cases offline with
  | true =>
    have hsorted := sortedFrom_congr (hfallback (.inl rfl)) SupportMatrix.fallbackSource
    rw [candidates_result, candidates_result, if_pos rfl, if_pos rfl, hsorted]
  | false =>
    -- Lists with the same members are both empty or neither is: both providers are believed alike.
    by_cases hne : lines = []
    · have hsorted := sortedFrom_congr (hfallback (.inr hne)) SupportMatrix.fallbackSource
      have hnil : others = [] := by
        by_contra hsome
        exact h.symm.ne_nil hsome hne
      rw [candidates_result, candidates_result, hlines, hothers, hne, hnil]
      exact hsorted
    · rw [candidates_of_lines hne hlines, candidates_of_lines (h.ne_nil hne) hothers]
      exact sortedFrom_congr (.lines h) SupportMatrix.feedSource

end Provider

namespace SupportMatrix

/-- A matrix depends on nothing but the expression and the candidates. -/
theorem build_congr {provider : Option (Provider σ)} {other : Option (Provider τ)} {offline : Bool}
    {state : σ} {state' : τ}
    (h : (candidatesOf provider offline state).result = (candidatesOf other offline state').result)
    (expression : String) :
    (build expression provider offline state).result =
      (build expression other offline state').result := by
  cases hread : Expression.read expression with
  | error fault =>
    rw [build, build, hread]
    rfl
  | ok found =>
    rw [build, build, hread]
    refine result_bind_congr ?_ ?_
    · rfl
    · intro _
      apply result_bind_congr h
      intro chosen
      have hversions (s : σ) (s' : τ) : (resolve expression chosen.1 s).result =
          (resolve expression chosen.1 s').result := by
        rw [resolve_result_eq, resolve_result_eq]
      apply result_bind_congr (hversions _ _)
      intro versions
      rfl

/-- Neither the order nor the repetitions of the lines that a provider lists matter: they are put in
the one strictly ascending order, and any expression has the same matrix or the same fault. -/
theorem order_does_not_matter {lines others : List String} (h : Reordered lines others) :
    (∃ sorted, SortsTo lines others sorted) ∧
    ∀ {σ τ : Type} (provider : Provider σ) (other : Provider τ) (state : σ) (state' : τ)
      (expression : String) (offline : Bool),
      (provider.supported state).result = .ok lines →
      (other.supported state').result = .ok others →
      (offline = true ∨ lines = [] → AnswerReordered (provider.fallbackAnswer offline state)
        (other.fallbackAnswer offline state')) →
      (build expression (some provider) offline state).result =
        (build expression (some other) offline state').result := by
  refine ⟨h.exists_sortsTo, ?_⟩
  intro σ τ provider other state state' expression offline hlines hothers hfallback
  apply build_congr
  exact Provider.candidates_congr h hlines hothers offline hfallback

theorem order_does_not_matter_of_repeated_line :
    (∃ sorted, sortLines ["3.12", "3.9", "3.12"] = .ok sorted ∧
      sortLines ["3.9", "3.12"] = .ok sorted ∧ Ascending sorted) ∧
    (build ">=3.10" (some ⟨return ["3.12", "3.9", "3.12"], return []⟩) false ()).result =
      (build ">=3.10" (some ⟨return ["3.9", "3.12"], return Feed.fallbackLines⟩) false
        ()).result := by
  have hnine : Version.read "3.9" = .ok ⟨3, 9⟩ := rfl
  have htwelve : Version.read "3.12" = .ok ⟨3, 12⟩ := rfl
  have hmem (text : String) : text ∈ ["3.12", "3.9", "3.12"] ↔ text ∈ ["3.9", "3.12"] := by
    simp only [List.mem_cons, List.not_mem_nil, or_false]
    tauto
  have hcases (text : String) (h : text ∈ ["3.12", "3.9", "3.12"]) :
      text = "3.9" ∨ text = "3.12" :=
    List.mem_pair.mp ((hmem text).mp h)
  have hreordered : Reordered ["3.12", "3.9", "3.12"] ["3.9", "3.12"] := by
    refine ⟨?_, ?_, hmem⟩
    · intro text htext
      rcases hcases text htext with rfl | rfl
      · exact ⟨_, hnine⟩
      · exact ⟨_, htwelve⟩
    · intro first hfirst second hsecond heq
      rcases hcases first hfirst with rfl | rfl <;> rcases hcases second hsecond with rfl | rfl
      · rfl
      · exact absurd (Except.ok.inj (hnine.symm.trans (heq.trans htwelve))) (by decide)
      · exact absurd (Except.ok.inj (htwelve.symm.trans (heq.trans hnine))) (by decide)
      · rfl
  obtain ⟨⟨sorted, hsorted⟩, hbuild⟩ := order_does_not_matter hreordered
  refine ⟨⟨sorted, hsorted.left, hsorted.right, hsorted.ascending⟩, ?_⟩
  refine hbuild _ _ () () ">=3.10" false rfl rfl ?_
  intro hneeded
  exact absurd hneeded (by decide)

end SupportMatrix

end ReleaseLines
