import ReleaseLines.Matrix.Basic
import ReleaseLines.Proofs.Distinct
import ReleaseLines.Proofs.Except
import ReleaseLines.Proofs.Version.Order
import Mathlib.Data.List.Sort

namespace ReleaseLines

/-- One text names a line that is below that of another. -/
def Below (first second : String) : Prop :=
  ∃ v w, Version.read first = .ok v ∧ Version.read second = .ok w ∧ v < w

/-- Texts in strictly ascending order of their lines. -/
def Ascending (lines : List String) : Prop := lines.Pairwise Below

theorem Below.ne {first second : String} (h : Below first second) : first ≠ second := by
  rintro rfl
  obtain ⟨v, w, hv, hw, hlt⟩ := h
  obtain rfl := Except.ok.inj (hv.symm.trans hw)
  rw [Version.lt_iff_key_lt] at hlt
  exact lt_irrefl _ hlt

theorem Ascending.nodup {lines : List String} (h : Ascending lines) : lines.Nodup :=
  h.imp fun hbelow => hbelow.ne

theorem Below.asymm {first second : String} (h : Below first second) : ¬Below second first := by
  intro hback
  obtain ⟨v, w, hv, hw, hlt⟩ := h
  obtain ⟨w', v', hw', hv', hgt⟩ := hback
  obtain rfl := Except.ok.inj (hv.symm.trans hv')
  obtain rfl := Except.ok.inj (hw.symm.trans hw')
  rw [Version.lt_iff_key_lt] at hlt hgt
  exact lt_asymm hlt hgt

instance : Std.Irrefl Below where
  irrefl _ h := h.ne rfl

instance : Std.Antisymm Below where
  antisymm _ _ hbelow habove := absurd habove hbelow.asymm

theorem exists_withVersions {texts : List String}
    (h : ∀ text ∈ texts, ∃ version, Version.read text = .ok version) :
    ∃ keyed, withVersions texts = .ok keyed := by
  induction texts with
  | nil => exact ⟨[], rfl⟩
  | cons text rest ih =>
    obtain ⟨version, hversion⟩ := h text (by simp)
    obtain ⟨keyed, hkeyed⟩ := ih fun other ho => h other (List.mem_cons_of_mem text ho)
    exact ⟨(version, text) :: keyed, by rw [withVersions, hversion, hkeyed]; rfl⟩

theorem read_of_withVersions {texts : List String} {keyed : List (Version × String)}
    (h : withVersions texts = .ok keyed) :
    keyed.map (·.2) = texts ∧ ∀ pair ∈ keyed, Version.read pair.2 = .ok pair.1 := by
  induction texts generalizing keyed with
  | nil =>
    obtain rfl := Except.ok.inj h
    exact ⟨rfl, by simp⟩
  | cons text rest ih =>
    obtain ⟨version, hversion, hrest⟩ := except_bind_eq_ok_iff.mp h
    obtain ⟨others, hothers, hkeyed⟩ := except_bind_eq_ok_iff.mp hrest
    obtain rfl := Except.ok.inj hkeyed
    obtain ⟨htexts, hread⟩ := ih hothers
    exact ⟨by rw [List.map_cons, htexts], List.forall_mem_cons.mpr ⟨hversion, hread⟩⟩

/-- Sorting neither loses a text nor adds one. -/
theorem mem_sortLines {texts sorted : List String} (h : sortLines texts = .ok sorted) (text : String) :
    text ∈ sorted ↔ text ∈ texts := by
  obtain ⟨keyed, hkeyed, hsorted⟩ := except_bind_eq_ok_iff.mp h
  obtain rfl := Except.ok.inj hsorted
  rw [((List.mergeSort_perm keyed _).map _).mem_iff, (read_of_withVersions hkeyed).1,
    List.mem_eraseDups]

theorem sorted_by_version (keyed : List (Version × String)) :
    (keyed.mergeSort fun a b => a.1 ≤ b.1).Pairwise fun a b => a.1 ≤ b.1 := by
  have transitive (a b c : Version × String) (hab : decide (a.1 ≤ b.1) = true)
      (hbc : decide (b.1 ≤ c.1) = true) : decide (a.1 ≤ c.1) = true := by
    rw [decide_eq_true_iff, Version.le_iff_key_le] at hab hbc ⊢
    exact hab.trans hbc
  have total (a b : Version × String) : (decide (a.1 ≤ b.1) || decide (b.1 ≤ a.1)) = true := by
    rw [Bool.or_eq_true, decide_eq_true_iff, decide_eq_true_iff, Version.le_iff_key_le,
      Version.le_iff_key_le]
    exact le_total a.1.key b.1.key
  exact (List.pairwise_mergeSort transitive total keyed).imp of_decide_eq_true

/-- Texts none of which names a line above that of a later one. -/
def InOrder (lines : List String) : Prop :=
  lines.Pairwise fun first second =>
    ∃ v w, Version.read first = .ok v ∧ Version.read second = .ok w ∧ v ≤ w

theorem inOrder_of_sortLines {texts sorted : List String} (h : sortLines texts = .ok sorted) :
    InOrder sorted := by
  obtain ⟨keyed, hkeyed, hsorted⟩ := except_bind_eq_ok_iff.mp h
  obtain rfl := Except.ok.inj hsorted
  obtain ⟨_, hread⟩ := read_of_withVersions hkeyed
  rw [InOrder, List.pairwise_map]
  apply (sorted_by_version keyed).imp_of_mem
  intro a b ha hb hle
  have hareads := hread a (List.mem_mergeSort.mp ha)
  have hbreads := hread b (List.mem_mergeSort.mp hb)
  exact ⟨a.1, b.1, hareads, hbreads, hle⟩

theorem ascending_of_keyed {keyed : List (Version × String)}
    (hread : ∀ pair ∈ keyed, Version.read pair.2 = .ok pair.1)
    (hsorted : keyed.Pairwise fun a b => a.1 < b.1) : Ascending (keyed.map (·.2)) := by
  rw [Ascending, List.pairwise_map]
  exact hsorted.imp_of_mem fun ha hb hlt => ⟨_, _, hread _ ha, hread _ hb, hlt⟩

/-- Readable texts of which no two name the same line are sorted into strictly ascending order,
each one once. -/
theorem sortLines_ascending {texts : List String}
    (hreadable : ∀ text ∈ texts, ∃ version, Version.read text = .ok version)
    (hdistinct : ∀ first ∈ texts, ∀ second ∈ texts,
      Version.read first = Version.read second → first = second) :
    ∃ sorted, sortLines texts = .ok sorted ∧ Ascending sorted ∧
      ∀ text, text ∈ sorted ↔ text ∈ texts := by
  obtain ⟨keyed, hkeyed⟩ :=
    exists_withVersions fun text ht => hreadable text (List.mem_eraseDups.mp ht)
  obtain ⟨htexts, hread⟩ := read_of_withVersions hkeyed
  have hsorted : sortLines texts = .ok ((keyed.mergeSort fun a b => a.1 ≤ b.1).map (·.2)) := by
    rw [sortLines, hkeyed]
    rfl
  have hmem := mem_sortLines hsorted
  have hnodup : (keyed.mergeSort fun a b => a.1 ≤ b.1).Nodup := by
    rw [(List.mergeSort_perm keyed _).nodup_iff]
    refine List.Nodup.of_map (·.2) ?_
    rw [htexts]
    exact nodup_eraseDups texts
  refine ⟨_, hsorted, ?_, hmem⟩
  refine ascending_of_keyed (fun pair hpair => hread pair (List.mem_mergeSort.mp hpair)) ?_
  refine ((sorted_by_version keyed).and hnodup).imp_of_mem ?_
  intro a b ha hb hab
  have hareads := hread a (List.mem_mergeSort.mp ha)
  have hbreads := hread b (List.mem_mergeSort.mp hb)
  refine Version.lt_of_le_of_ne hab.1 fun hversion => hab.2 ?_
  refine Prod.ext hversion (hdistinct _ ?_ _ ?_ (by rw [hareads, hbreads, hversion]))
  · exact (hmem a.2).mp (List.mem_map_of_mem ha)
  · exact (hmem b.2).mp (List.mem_map_of_mem hb)

theorem eraseDups_of_nodup {texts : List String} (h : texts.Nodup) : texts.eraseDups = texts := by
  induction texts with
  | nil => rfl
  | cons text rest ih =>
    rw [List.nodup_cons] at h
    have hall : ∀ other ∈ rest, (!other == text) = true := by
      intro other ho
      simpa using fun heq : other = text => h.1 (heq ▸ ho)
    rw [List.eraseDups_cons, List.filter_eq_self.mpr hall, ih h.2]

/-- Texts that are in ascending order stay as they are. -/
theorem sortLines_of_keyed {keyed : List (Version × String)}
    (hread : ∀ pair ∈ keyed, Version.read pair.2 = .ok pair.1)
    (hsorted : keyed.Pairwise fun a b => a.1 < b.1) :
    sortLines (keyed.map (·.2)) = .ok (keyed.map (·.2)) := by
  have hkeyed : withVersions (keyed.map (·.2)) = .ok keyed := by
    clear hsorted
    induction keyed with
    | nil => rfl
    | cons pair rest ih =>
      rw [List.forall_mem_cons] at hread
      rw [List.map_cons, withVersions, hread.1, ih hread.2]
      rfl
  have hstays : (keyed.mergeSort fun a b => a.1 ≤ b.1) = keyed :=
    List.mergeSort_of_pairwise (hsorted.imp fun hlt => decide_eq_true (Version.le_of_lt hlt))
  rw [sortLines, eraseDups_of_nodup (ascending_of_keyed hread hsorted).nodup, hkeyed]
  show Except.ok ((keyed.mergeSort fun a b => a.1 ≤ b.1).map (·.2)) = _
  rw [hstays]

end ReleaseLines
