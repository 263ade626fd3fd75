import ReleaseLines.Output.Files
import ReleaseLines.Proofs.Text.Pieces
import Mathlib.Data.List.Basic

namespace ReleaseLines

namespace Place

/-- A step of a path. -/
structure IsStep (step : String) : Prop where
  ne_empty : step ≠ ""
  no_slash : '/' ∉ step.toList

/-- A step that neither stays nor leads up. -/
structure IsName (step : String) : Prop extends IsStep step where
  ne_here : step ≠ "."
  ne_up : step ≠ ".."

/-- What the system takes: no zero in the path, and neither the path nor a step of it too long. -/
structure Fits (place : Place) : Prop where
  no_zero : Char.ofNat 0 ∉ place.path.toList
  short : place.path.utf8ByteSize < Files.pathLimit
  steps : ∀ step ∈ place.steps, step.utf8ByteSize ≤ Files.nameLimit

/-- A place without detours: no step stays, and one that leads up has none but such before it, and
does not start from the root. -/
structure IsDirect (place : Place) : Prop where
  steps : ∀ step ∈ place.steps, IsStep step ∧ step ≠ "."
  up : ∀ before, before ++ [".."] <+: place.steps →
    place.isRooted = false ∧ ∀ step ∈ before, step = ".."

variable {place : Place} {step : String} {before : List String}

theorem enter_of_isName (place : Place) (h : IsName step) :
    place.enter step = ⟨place.isRooted, place.steps ++ [step]⟩ := by
  simp [enter, h.ne_here, h.ne_up]

/-- A step stays, leads up further, or back over the last step, or into a directory by its name. -/
theorem enter_cases (place : Place) (step : String) :
    place.enter step = place ∨
    ((∀ other ∈ ".." :: place.steps, other = "..") ∧ place.isRooted = false ∧
      place.enter step = ⟨place.isRooted, ".." :: place.steps⟩) ∨
    place.enter step = ⟨place.isRooted, place.steps.dropLast⟩ ∨
    (step ≠ "." ∧ step ≠ ".." ∧ place.enter step = ⟨place.isRooted, place.steps ++ [step]⟩) := by
  unfold enter
  split
  next => exact .inl rfl
  next hhere =>
    split
    next =>
      unfold parent
      split
      next h =>
        rw [Bool.and_eq_true, Bool.not_eq_true', List.all_eq_true] at h
        have hall : ∀ other ∈ place.steps, other = ".." := fun other hs => eq_of_beq (h.2 other hs)
        exact .inr (.inl ⟨List.forall_mem_cons.mpr ⟨rfl, hall⟩, h.1, rfl⟩)
      next => exact .inr (.inr (.inl rfl))
    next hup => exact .inr (.inr (.inr ⟨by simpa using hhere, by simpa using hup, rfl⟩))

theorem enter_isRooted (place : Place) (step : String) :
    (place.enter step).isRooted = place.isRooted := by
  rcases place.enter_cases step with heq | ⟨_, _, heq⟩ | heq | ⟨_, _, heq⟩
  all_goals rw [heq]

theorem isDirect_start (rooted : Bool) : IsDirect ⟨rooted, []⟩ where
  steps := by simp
  up := by simp

theorem isGiven_iff : place.isGiven = true ↔ ∀ step ∈ place.steps, step = ".." := by
  simp [isGiven]

namespace IsDirect

theorem of_prefix (h : place.IsDirect) (hfront : before <+: place.steps) :
    IsDirect ⟨place.isRooted, before⟩ where
  steps step hs := h.steps step (hfront.subset hs)
  up first hfirst := h.up first (hfirst.trans hfront)

theorem enter (h : place.IsDirect) (hstep : IsStep step) : (place.enter step).IsDirect := by
  rcases place.enter_cases step with heq | ⟨hups, hroot, heq⟩ | heq | ⟨hhere, hup, heq⟩
  · rw [heq]
    exact h
  · rw [heq]
    constructor
    · intro other hother
      obtain rfl := hups other hother
      exact ⟨⟨by decide, by decide⟩, by decide⟩
    · intro first hfirst
      exact ⟨hroot, fun other hother => hups other (hfirst.subset (List.mem_append_left _ hother))⟩
  · rw [heq]
    exact h.of_prefix (List.dropLast_prefix _)
  · rw [heq]
    constructor
    · intro other hother
      rcases List.mem_append.mp hother with hother | hother
      · exact h.steps other hother
      · obtain rfl := List.mem_singleton.mp hother
        exact ⟨hstep, hhere⟩
    · intro first hfirst
      rcases List.prefix_concat_iff.mp hfirst with hsame | hfront
      · exact absurd (List.append_inj_right' hsame rfl) (by simpa using hup.symm)
      · exact h.up first hfront

/-- The next step of a direct place is added behind those before it, also where it leads up. -/
theorem enter_prefix (h : place.IsDirect) (hfront : before ++ [step] <+: place.steps) :
    Place.enter ⟨place.isRooted, before⟩ step = ⟨place.isRooted, before ++ [step]⟩ := by
  obtain ⟨hstep, hhere⟩ := h.steps step (hfront.subset (by simp))
  by_cases hup : step = ".."
  · subst hup
    obtain ⟨hroot, hall⟩ := h.up before hfront
    have hconcat : ".." :: before = before ++ [".."] := by
      rw [List.eq_replicate_of_mem hall, ← List.replicate_succ, List.replicate_succ']
    have hparent : parent ⟨place.isRooted, before⟩ = ⟨place.isRooted, ".." :: before⟩ := by
      rw [parent, if_pos]
      simpa [hroot] using hall
    rw [← hconcat, ← hparent]
    rfl
  · exact enter_of_isName _ ⟨hstep, hhere, hup⟩

/-- The steps of a direct place lead through the places in front of it only. -/
theorem mem_through {rest : List String} (h : place.IsDirect)
    (hsteps : place.steps = before ++ rest) {between : Place}
    (hmem : between ∈ Place.through ⟨place.isRooted, before⟩ rest) :
    ∃ front, front <+: place.steps ∧ between = ⟨place.isRooted, front⟩ := by
  induction rest generalizing before with
  | nil => exact ⟨before, ⟨[], hsteps.symm⟩, List.mem_singleton.mp hmem⟩
  | cons step rest ih =>
    have hconcat : place.steps = (before ++ [step]) ++ rest := by simp [hsteps]
    rcases List.mem_cons.mp hmem with rfl | hmem
    · exact ⟨before, ⟨step :: rest, hsteps.symm⟩, rfl⟩
    · rw [h.enter_prefix ⟨rest, hconcat.symm⟩] at hmem
      exact ih hconcat hmem

end IsDirect

/-- A property of places that are given and of those that some steps lead through carries over to
the places in front of the latter, as far as it holds in front of the first. -/
theorem forall_prefix_of_forall_through {holds : Place → Prop}
    (hgiven : ∀ place : Place, place.isGiven = true → holds place) {start : Place}
    {steps : List String}
    (hthrough : ∀ place ∈ start.through steps, holds place)
    (hstart : ∀ before, before <+: start.steps → holds ⟨start.isRooted, before⟩) :
    ∀ place ∈ start.through steps, ∀ before, before <+: place.steps →
      holds ⟨place.isRooted, before⟩ := by
  induction steps generalizing start with
  | nil =>
    intro place hmem before hfront
    obtain rfl := List.mem_singleton.mp hmem
    exact hstart before hfront
  | cons step rest ih =>
    obtain ⟨_, hrest⟩ := List.forall_mem_cons.mp hthrough
    refine List.forall_mem_cons.mpr ⟨hstart, ih hrest fun before hfront => ?_⟩
    rw [start.enter_isRooted]
    rcases start.enter_cases step with heq | ⟨hups, _, heq⟩ | heq | ⟨_, _, heq⟩
    · rw [heq] at hfront
      exact hstart before hfront
    · rw [heq] at hfront
      exact hgiven _ (isGiven_iff.mpr fun other hother => hups other (hfront.subset hother))
    · rw [heq] at hfront
      exact hstart before (hfront.trans (List.dropLast_prefix _))
    · rw [heq] at hfront
      rcases List.prefix_concat_iff.mp hfront with rfl | hfront
      · rw [← heq]
        exact hrest _ (by cases rest <;> simp [through])
      · exact hstart before hfront

end Place

namespace Files

open Place

variable {place : Place}

/-- Between its slashes a path has its steps, behind an empty piece if it starts from the root. -/
theorem pieces_path (hne : place.steps ≠ []) (h : ∀ step ∈ place.steps, IsStep step) :
    Text.pieces (· == '/') place.path.toList =
      (if place.isRooted then [[]] else []) ++ place.steps.map String.toList := by
  have hsteps : Text.pieces (· == '/') (String.intercalate "/" place.steps).toList =
      place.steps.map String.toList := by
    rw [String.toList_intercalate]
    refine (Text.pieces_intercalate (by rfl) (by simpa using hne)).trans ?_
    rw [List.flatMap_map, ← List.flatMap_pure_eq_map]
    refine List.flatMap_congr fun step hs => Text.pieces_eq_singleton fun c hc => ?_
    simpa using ne_of_mem_of_not_mem hc (h step hs).no_slash
  rw [Place.path, String.toList_append]
  cases place.isRooted with
  | true => exact (Text.pieces_cons_of_true _ (by rfl)).trans (congrArg ([] :: ·) hsteps)
  | false => exact hsteps

theorem stepsOf_path (hne : place.steps ≠ []) (h : ∀ step ∈ place.steps, IsStep step) :
    stepsOf place.path = place.steps := by
  have hkept : (place.steps.map String.toList).filter (· != []) =
      place.steps.map String.toList := by
    refine List.filter_eq_self.mpr fun cs hcs => ?_
    obtain ⟨step, hs, rfl⟩ := List.mem_map.mp hcs
    simpa using (h step hs).ne_empty
  rw [stepsOf, pieces_path hne h, List.filter_append, hkept]
  cases place.isRooted <;> simp [List.map_map, Function.comp_def]

theorem path_ne_empty (hne : place.steps ≠ []) (h : ∀ step ∈ place.steps, IsStep step) :
    place.path ≠ "" := by
  intro hpath
  have hnone := stepsOf_path hne h
  rw [hpath] at hnone
  exact hne hnone.symm

theorem startOf_path (hne : place.steps ≠ []) (h : ∀ step ∈ place.steps, IsStep step) :
    startOf place.path = ⟨place.isRooted, []⟩ := by
  have hpieces := pieces_path hne h
  unfold startOf
  congr 1
  cases hroot : place.isRooted with
  | true => simp [Place.path, hroot]
  | false =>
    rw [hroot] at hpieces
    refine beq_eq_false_iff_ne.mpr fun hhead => ?_
    obtain ⟨rest, hrest⟩ := List.head?_eq_some_iff.mp hhead
    obtain ⟨first, others, hsteps⟩ := List.exists_cons_of_ne_nil hne
    rw [hrest, Text.pieces_cons_of_true _ (by rfl), hsteps] at hpieces
    have hempty : [] = first.toList := (List.cons.inj hpieces).1
    exact (h first (by simp [hsteps])).ne_empty (by simpa using hempty.symm)

theorem endsInSlash_path (hne : place.steps ≠ []) (h : ∀ step ∈ place.steps, IsStep step) :
    endsInSlash place.path = false := by
  have hpieces := pieces_path hne h
  refine beq_eq_false_iff_ne.mpr fun hlast => ?_
  obtain ⟨front, hfront⟩ := List.getLast?_eq_some_iff.mp hlast
  rw [hfront, Text.pieces_append_separator _ _ (by rfl)] at hpieces
  have hends : some [] = (place.steps.map String.toList).getLast? := by
    have hboth := congrArg List.getLast? hpieces
    rwa [Text.pieces, List.getLast?_concat,
      List.getLast?_append_of_ne_nil _ (by simpa using hne)] at hboth
  rw [List.getLast?_map, List.getLast?_eq_some_getLast hne] at hends
  have hempty : [] = (place.steps.getLast hne).toList := Option.some.inj hends
  exact (h _ (List.getLast_mem hne)).ne_empty (by simpa using hempty.symm)

/-- A path leads through the places in front of the one it is of. -/
theorem placesOf_path (hne : place.steps ≠ []) (h : ∀ step ∈ place.steps, IsStep step) :
    placesOf place.path = Place.through ⟨place.isRooted, []⟩ place.steps.dropLast := by
  rw [placesOf, startOf_path hne h, endsInSlash_path hne h, stepsOf_path hne h]
  rfl

theorem isStep_of_mem_stepsOf {path step : String} (h : step ∈ stepsOf path) : IsStep step := by
  obtain ⟨cs, hcs, rfl⟩ := List.mem_map.mp h
  obtain ⟨hpiece, hne⟩ := List.mem_filter.mp hcs
  refine ⟨by simpa using hne, fun hslash => ?_⟩
  have hfree := Text.eq_false_of_mem_pieces hpiece (by simpa using hslash)
  cases hfree

end Files

end ReleaseLines
