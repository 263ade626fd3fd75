import ReleaseLines.Configuration.Address
import ReleaseLines.Proofs.Text.Pieces

namespace ReleaseLines

theorem Text.suffix_of_cut {separator : Char} {cs before after : List Char}
    (h : Text.cut separator cs = (before, some after)) : after <:+ cs := by
  unfold Text.cut at h
  split at h
  next first rest hdrop =>
    obtain ⟨_, hafter⟩ := Prod.mk.inj h
    obtain rfl := Option.some.inj hafter
    exact (List.suffix_cons first rest).trans (hdrop ▸ List.dropWhile_suffix _)
  next => cases h

theorem Text.mem_of_mem_cut {separator c : Char} {cs before after : List Char}
    (h : Text.cut separator cs = (before, some after)) (hc : c ∈ after) : c ∈ cs :=
  (Text.suffix_of_cut h).subset hc

namespace Address

/-- A character without which every address can be read: a bracket, or one that looks like a
separator. -/
def isDelicate (c : Char) : Bool := c == '[' || c == ']' || lookalikes.contains c.toNat

theorem mem_of_mem_splitScheme {c : Char} {cs : List Char} (h : c ∈ (splitScheme cs).2) :
    c ∈ cs := by
  unfold splitScheme at h
  split at h
  next name rest hcut =>
    split at h
    · exact Text.mem_of_mem_cut hcut h
    · exact h
  next => exact h

theorem mem_of_mem_hostOf {c : Char} {cs : List Char} (h : c ∈ hostOf cs) : c ∈ cs := by
  unfold hostOf at h
  split at h
  next rest =>
    have hrest : c ∈ rest := (List.takeWhile_sublist _).subset h
    exact List.mem_cons_of_mem _ (List.mem_cons_of_mem _ hrest)
  next => cases h

theorem mem_of_mem_significant {c : Char} {cs : List Char} (h : c ∈ significant cs) : c ∈ cs :=
  (List.dropWhile_suffix _).subset (List.mem_filter.mp h).1

theorem bracketProblem?_eq_none {host : List Char} (hopen : '[' ∉ host) (hclose : ']' ∉ host) :
    bracketProblem? host = none := by
  have hopen' : host.contains '[' = false := by simpa using hopen
  have hclose' : host.contains ']' = false := by simpa using hclose
  rw [bracketProblem?, hopen', hclose']
  rfl

/-- An address without delicate characters can be read. -/
theorem exists_read_of_plain {text : String} (h : ∀ c ∈ text.toList, isDelicate c = false) :
    ∃ a, read text = .ok a := by
  have hhost : ∀ c ∈ hostOf (splitScheme (significant text.toList)).2, isDelicate c = false :=
    fun c hc => h c (mem_of_mem_significant (mem_of_mem_splitScheme (mem_of_mem_hostOf hc)))
  have hbrackets : bracketProblem? (hostOf (splitScheme (significant text.toList)).2) = none :=
    bracketProblem?_eq_none (fun hmem => by cases hhost _ hmem) fun hmem => by cases hhost _ hmem
  have hplain : (hostOf (splitScheme (significant text.toList)).2).any
      (lookalikes.contains ·.toNat) = false := by
    rw [List.any_eq_false]
    intro c hc
    exact Bool.eq_false_iff.mp (Bool.or_eq_false_iff.mp (hhost c hc)).2
  simp only [read, hbrackets, hplain]
  exact ⟨_, rfl⟩

end Address

end ReleaseLines
