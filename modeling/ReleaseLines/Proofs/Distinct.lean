import Mathlib.Data.List.Basic

namespace ReleaseLines

variable {α β : Type}

/-- An induction on lists in which an element is added in front of what it has left of a list. -/
theorem filter_induction (keep : α → α → Bool) {motive : List α → Prop} (nil : motive [])
    (cons : ∀ x rest, motive (rest.filter (keep x)) → motive (x :: rest)) (xs : List α) :
    motive xs := by
  induction hn : xs.length using Nat.strongRecOn generalizing xs with
  | ind n ih =>
    cases xs with
    | nil => exact nil
    | cons x rest =>
      have hlength := List.length_filter_le (keep x) rest
      exact cons x rest (ih _ (by rw [← hn, List.length_cons]; omega) _ rfl)

theorem nodup_eraseDups [BEq α] [LawfulBEq α] (xs : List α) : xs.eraseDups.Nodup := by
  induction xs using filter_induction (fun x y : α => !y == x) with
  | nil => exact List.nodup_nil
  | cons x rest ih =>
    rw [List.eraseDups_cons, List.nodup_cons]
    refine ⟨fun hmem => ?_, ih⟩
    have hne := (List.mem_filter.mp (List.mem_eraseDups.mp hmem)).2
    simp at hne

theorem eraseDupsBy_sublist (r : α → α → Bool) (xs : List α) :
    List.Sublist (xs.eraseDupsBy r) xs := by
  induction xs using filter_induction (fun x y => decide (r y x = false)) with
  | nil => exact List.Sublist.slnil
  | cons x rest ih =>
    rw [List.eraseDupsBy_cons]
    exact (ih.trans List.filter_sublist).cons_cons x

/-- Of those with one key the first is left. -/
theorem map_eraseDupsBy [BEq β] (key : α → β) (xs : List α) :
    (xs.eraseDupsBy fun a b => key a == key b).map key = (xs.map key).eraseDups := by
  induction xs using filter_induction (fun x y => decide ((key y == key x) = false)) with
  | nil => rfl
  | cons x rest ih =>
    have hkeys : (rest.filter fun y => decide ((key y == key x) = false)).map key =
        (rest.map key).filter fun k => !k == key x := by
      rw [List.filter_map]
      congr 1
      apply List.filter_congr
      intro y _
      cases hy : key y == key x <;> simp [hy]
    rw [List.eraseDupsBy_cons, List.map_cons, List.map_cons, List.eraseDups_cons, ih, hkeys]

end ReleaseLines
