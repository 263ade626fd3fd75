import ReleaseLines.Text.Case
import Mathlib.Data.List.Basic

namespace ReleaseLines.Text

/-- One of the capital letters from A to Z. -/
def isCapital (c : Char) : Bool := 0x41 ≤ c.toNat && c.toNat ≤ 0x5A

/-- Ranges with every character that is none of the capital letters but has them alone for its upper
case. -/
def risingRanges : List (Nat × Nat) :=
  [(0x61, 0x7A), (0xDF, 0xDF), (0x131, 0x131), (0x17F, 0x17F), (0xFB00, 0xFB06)]

theorem rises_of_mem_upperExpansions : ∀ expansion ∈ upperExpansions,
    (∃ n ∈ expansion.2, isCapital (Char.ofNat n) = false) ∨
      ∃ range ∈ risingRanges, range.1 ≤ expansion.1 ∧ expansion.1 ≤ range.2 := by
  decide +kernel

theorem rises_of_mem_upperRuns : ∀ run ∈ upperRuns,
    (0x5A : Int) < run.first + run.shift ∨
      ∃ range ∈ risingRanges, range.1 ≤ run.first ∧ run.last ≤ range.2 := by
  decide +kernel

theorem not_rises_of_mem_expansion : ∀ expansion ∈ upperExpansions, ∀ n ∈ expansion.2,
    inRanges risingRanges (Char.ofNat n) = false := by
  decide +kernel

theorem not_rises_after_run : ∀ run ∈ upperRuns, ∀ range ∈ risingRanges,
    (range.2 : Int) < run.first + run.shift ∨ run.last + run.shift < range.1 := by
  decide +kernel

theorem expansions_above_capitals : ∀ expansion ∈ upperExpansions, 0x5A < expansion.1 := by
  decide +kernel

theorem runs_above_capitals : ∀ run ∈ upperRuns, 0x5A < run.first := by
  decide +kernel

theorem upperChar_cases (c : Char) :
    (∃ expansion ∈ upperExpansions, expansion.1 = c.toNat ∧
        upperChar c = expansion.2.map Char.ofNat) ∨
      (∃ run ∈ upperRuns, run.first ≤ c.toNat ∧ c.toNat ≤ run.last ∧
        upperChar c = [Char.ofNat (c.toNat + run.shift).toNat]) ∨
      upperChar c = [c] := by
  unfold upperChar
  split
  next expansion hfound =>
    have hcode : expansion.1 = c.toNat := by simpa using List.find?_some hfound
    exact .inl ⟨expansion, List.mem_of_find?_eq_some hfound, hcode, rfl⟩
  next =>
    unfold shifted
    split
    next run hfound =>
      have hcovers : run.covers c.toNat = true := by simpa using List.find?_some hfound
      simp only [CaseRun.covers, Bool.and_eq_true, decide_eq_true_eq] at hcovers
      exact .inr (.inl ⟨run, List.mem_of_find?_eq_some hfound, hcovers.1.1, hcovers.1.2, rfl⟩)
    next => exact .inr (.inr rfl)

theorem toNat_ofNat_cases (n : Nat) : (Char.ofNat n).toNat = n ∨ (Char.ofNat n).toNat = 0 := by
  by_cases hvalid : n.isValidChar
  · rw [Char.ofNat, dif_pos hvalid]
    exact .inl rfl
  · rw [Char.ofNat, dif_neg hvalid]
    exact .inr rfl

theorem isCapital_iff {c : Char} : isCapital c = true ↔ 0x41 ≤ c.toNat ∧ c.toNat ≤ 0x5A := by
  simp [isCapital]

theorem inRanges_iff {ranges : List (Nat × Nat)} {c : Char} :
    inRanges ranges c = true ↔ ∃ range ∈ ranges, range.1 ≤ c.toNat ∧ c.toNat ≤ range.2 := by
  simp [inRanges]

theorem isCapital_or_rises {c : Char} (h : ∀ d ∈ upperChar c, isCapital d = true) :
    isCapital c = true ∨ inRanges risingRanges c = true := by
  rcases upperChar_cases c with
    ⟨expansion, hmem, hcode, heq⟩ | ⟨run, hmem, hfirst, hlast, heq⟩ | heq
  · rcases rises_of_mem_upperExpansions expansion hmem with ⟨n, hn, hother⟩ | ⟨range, hrange, hin⟩
    · have hcapital := h (Char.ofNat n) (heq ▸ List.mem_map_of_mem hn)
      rw [hother] at hcapital
      cases hcapital
    · exact .inr (inRanges_iff.mpr ⟨range, hrange, hcode ▸ hin⟩)
  · rcases rises_of_mem_upperRuns run hmem with hfar | ⟨range, hrange, hin⟩
    · have hcapital := isCapital_iff.mp (h _ (heq ▸ List.mem_singleton_self _))
      have hcode := toNat_ofNat_cases (c.toNat + run.shift).toNat
      omega
    · exact .inr (inRanges_iff.mpr ⟨range, hrange, by omega, by omega⟩)
  · exact .inl (h c (heq ▸ List.mem_singleton_self c))

theorem not_rises_of_mem_upperChar {c d : Char} (h : d ∈ upperChar c) :
    inRanges risingRanges d = false ∨ upperChar d = [d] := by
  rcases upperChar_cases c with ⟨expansion, hmem, _, heq⟩ | ⟨run, hmem, hfirst, hlast, heq⟩ | heq
  · obtain ⟨n, hn, rfl⟩ := List.mem_map.mp (heq ▸ h)
    exact .inl (not_rises_of_mem_expansion expansion hmem n hn)
  · obtain rfl := List.mem_singleton.mp (heq ▸ h)
    refine .inl (Bool.eq_false_iff.mpr fun hrises => ?_)
    obtain ⟨range, hrange, hlow, hhigh⟩ := inRanges_iff.mp hrises
    have hpositive : ∀ range ∈ risingRanges, 0 < range.1 := by decide
    have hbeyond := not_rises_after_run run hmem range hrange
    have hcode := toNat_ofNat_cases (c.toNat + run.shift).toNat
    have := hpositive range hrange
    omega
  · obtain rfl := List.mem_singleton.mp (heq ▸ h)
    exact .inr heq

theorem upperChar_of_isCapital {c : Char} (h : isCapital c = true) : upperChar c = [c] := by
  have hcode := isCapital_iff.mp h
  rcases upperChar_cases c with ⟨expansion, hmem, hsame, _⟩ | ⟨run, hmem, hfirst, _⟩ | heq
  · have := expansions_above_capitals expansion hmem
    omega
  · have := runs_above_capitals run hmem
    omega
  · exact heq

/-- An upper case that has capital letters alone for its own upper case is made of them. -/
theorem uppercase_eq_of_isCapital {s : String}
    (h : ∀ c ∈ (uppercase (uppercase s)).toList, isCapital c = true) :
    uppercase (uppercase s) = uppercase s := by
  have hcapital : ∀ d ∈ (uppercase s).toList, isCapital d = true := by
    intro d hd
    have hupper : ∀ e ∈ upperChar d, isCapital e = true := by
      intro e he
      apply h
      rw [uppercase, String.toList_ofList]
      exact List.mem_flatMap_of_mem hd he
    rw [uppercase, String.toList_ofList] at hd
    obtain ⟨c, _, hc⟩ := List.mem_flatMap.mp hd
    rcases not_rises_of_mem_upperChar hc with hfixed | hself
    · exact (isCapital_or_rises hupper).resolve_right (by simp [hfixed])
    · exact hupper d (hself ▸ List.mem_singleton_self d)
  have hsame : (uppercase s).toList.flatMap upperChar = (uppercase s).toList := by
    rw [List.flatMap_congr fun d hd => upperChar_of_isCapital (hcapital d hd)]
    exact List.flatMap_singleton' _
  rw [uppercase, hsame, String.ofList_toList]

end ReleaseLines.Text
