import ReleaseLines.Proofs.Except
import ReleaseLines.Proofs.Output.Frame
import ReleaseLines.Proofs.Output.Places

namespace ReleaseLines

namespace Files

open Place

variable {files : Files} {path name : String} {place : Place}

theorem hasDirectory_iff : files.hasDirectory place = true ↔
    place.isGiven = true ∨ ∃ file ∈ files, place ∈ placesOf file.1 := by
  simp [hasDirectory]

theorem hasDirectory_of_isGiven (h : place.isGiven = true) : files.hasDirectory place = true :=
  hasDirectory_iff.mpr (.inl h)

/-- What is in front of a directory that exists exists too. -/
theorem hasDirectory_of_prefix {before : List String} (h : files.hasDirectory place = true)
    (hfront : before <+: place.steps) : files.hasDirectory ⟨place.isRooted, before⟩ = true := by
  rcases hasDirectory_iff.mp h with hgiven | ⟨file, hfile, hplace⟩
  · refine hasDirectory_of_isGiven (isGiven_iff.mpr fun step hs => ?_)
    exact isGiven_iff.mp hgiven step (hfront.subset hs)
  · have hthere (other : Place) (hother : other ∈ placesOf file.1) :
        files.hasDirectory other = true := hasDirectory_iff.mpr (.inr ⟨file, hfile, hother⟩)
    refine forall_prefix_of_forall_through (fun _ => hasDirectory_of_isGiven) hthere
      (fun front hnone => ?_) place hplace before hfront
    obtain rfl := List.prefix_nil.mp hnone
    exact hasDirectory_of_isGiven rfl

theorem exists_mem_append_iff {p : String → Prop} (text : String) :
    (∃ file ∈ files.append name text, p file.1) ↔ (∃ file ∈ files, p file.1) ∨ p name := by
  induction files with
  | nil => simp [append]
  | cons file rest ih =>
    rw [append]
    split
    next hname =>
      simp only [List.exists_mem_cons_iff, eq_of_beq hname]
      rw [or_right_comm, or_self]
    next => simp only [List.exists_mem_cons_iff, ih, or_assoc]

theorem hasDirectory_append_iff (text : String) :
    (files.append name text).hasDirectory place = true ↔
      files.hasDirectory place = true ∨ place ∈ placesOf name := by
  rw [hasDirectory_iff, hasDirectory_iff, or_assoc,
    exists_mem_append_iff (p := fun other => place ∈ placesOf other)]

/-- Where a step leads to exists, if it can be taken. -/
theorem enter_sound {step : String} {next : Place} (hdirect : place.IsDirect)
    (hexists : files.hasDirectory place = true) (hstep : IsStep step)
    (h : files.enter path place step = .ok next) :
    next = place.enter step ∧ next.IsDirect ∧ files.hasDirectory next = true := by
  unfold enter at h
  split at h
  next hturn =>
    obtain rfl := Except.ok.inj h
    refine ⟨rfl, hdirect.enter hstep, ?_⟩
    rcases place.enter_cases step with heq | ⟨hups, _, heq⟩ | heq | ⟨hhere, hup, _⟩
    · rwa [heq]
    · rw [heq]
      exact hasDirectory_of_isGiven (isGiven_iff.mpr hups)
    · rw [heq]
      exact hasDirectory_of_prefix hexists (List.dropLast_prefix _)
    · simp [hhere, hup] at hturn
  next =>
    split at h
    next => cases h
    next =>
      split at h
      next hthere =>
        obtain rfl := Except.ok.inj h
        exact ⟨rfl, hdirect.enter hstep, hthere⟩
      next => split at h <;> cases h

theorem foldlM_enter_sound {steps : List String} {last : Place} (hdirect : place.IsDirect)
    (hexists : files.hasDirectory place = true) (hsteps : ∀ step ∈ steps, IsStep step)
    (h : steps.foldlM (files.enter path) place = .ok last) :
    last.IsDirect ∧ files.hasDirectory last = true := by
  induction steps generalizing place with
  | nil =>
    obtain rfl := Except.ok.inj h
    exact ⟨hdirect, hexists⟩
  | cons step rest ih =>
    obtain ⟨hstep, hrest⟩ := List.forall_mem_cons.mp hsteps
    rw [List.foldlM_cons] at h
    obtain ⟨next, hnext, hlast⟩ := except_bind_eq_ok_iff.mp h
    obtain ⟨_, hdirect', hexists'⟩ := enter_sound hdirect hexists hstep hnext
    exact ih hdirect' hexists' hrest hlast

theorem enter_prefix_eq_ok_iff {step : String} {before : List String} {next : Place}
    (hdirect : place.IsDirect) (hfits : step.utf8ByteSize ≤ nameLimit)
    (hfront : before ++ [step] <+: place.steps)
    (hexists : files.hasDirectory ⟨place.isRooted, before⟩ = true) :
    files.enter path ⟨place.isRooted, before⟩ step = .ok next ↔
      next = ⟨place.isRooted, before ++ [step]⟩ ∧ files.hasDirectory next = true := by
  have heq := hdirect.enter_prefix hfront
  constructor
  · intro h
    have hbefore := hdirect.of_prefix ((List.prefix_append before [step]).trans hfront)
    have hstep := (hdirect.steps step (hfront.subset (by simp))).1
    obtain ⟨hnext, _, hthere⟩ := enter_sound hbefore hexists hstep h
    exact ⟨hnext.trans heq, hthere⟩
  · rintro ⟨rfl, hthere⟩
    unfold enter
    rw [heq, if_neg (Nat.not_lt.mpr hfits), if_pos hthere, ite_self]

/-- The steps of a direct place can be taken exactly if it exists. -/
theorem foldlM_enter_eq_ok_iff {rest before : List String} {last : Place} (hdirect : place.IsDirect)
    (hfits : ∀ step ∈ place.steps, step.utf8ByteSize ≤ nameLimit)
    (hsteps : place.steps = before ++ rest)
    (hexists : files.hasDirectory ⟨place.isRooted, before⟩ = true) :
    rest.foldlM (files.enter path) ⟨place.isRooted, before⟩ = .ok last ↔
      last = place ∧ files.hasDirectory place = true := by
  induction rest generalizing before with
  | nil =>
    have hplace : (⟨place.isRooted, before⟩ : Place) = place := by
      rw [← before.append_nil, ← hsteps]
    rw [hplace] at hexists ⊢
    exact ⟨fun h => ⟨(Except.ok.inj h).symm, hexists⟩, fun h => congrArg Except.ok h.1.symm⟩
  | cons step rest ih =>
    have hconcat : place.steps = (before ++ [step]) ++ rest := by simp [hsteps]
    have hfront : before ++ [step] <+: place.steps := ⟨rest, hconcat.symm⟩
    have henter {next : Place} : files.enter path ⟨place.isRooted, before⟩ step = .ok next ↔
        next = ⟨place.isRooted, before ++ [step]⟩ ∧ files.hasDirectory next = true :=
      enter_prefix_eq_ok_iff hdirect (hfits step (hfront.subset (by simp))) hfront hexists
    rw [List.foldlM_cons, except_bind_eq_ok_iff]
    constructor
    · rintro ⟨next, hnext, hlast⟩
      obtain ⟨rfl, hthere⟩ := henter.mp hnext
      exact (ih hconcat hthere).mp hlast
    · intro h
      have hthere := hasDirectory_of_prefix h.2 hfront
      exact ⟨_, henter.mpr ⟨rfl, hthere⟩, (ih hconcat hthere).mpr h⟩

/-- A new file can be opened exactly in a directory that exists, under a name that none has. -/
theorem target_path_eq_ok_iff {step : String} (hdirect : place.IsDirect) (hstep : IsName step)
    (hfits : (place.enter step).Fits) (hnew : files.content? (place.enter step).path = none) :
    files.target (place.enter step).path = .ok name ↔ name = (place.enter step).path ∧
      files.hasDirectory place = true ∧ files.hasDirectory (place.enter step) = false := by
  have heq := place.enter_of_isName hstep
  have hsteps : ∀ other ∈ (place.enter step).steps, IsStep other := fun other hother =>
    ((hdirect.enter hstep.toIsStep).steps other hother).1
  have hne : (place.enter step).steps ≠ [] := by simp [heq]
  have hpassed {last : Place} : place.steps.foldlM (files.enter (place.enter step).path)
      ⟨place.isRooted, []⟩ = .ok last ↔ last = place ∧ files.hasDirectory place = true :=
    foldlM_enter_eq_ok_iff hdirect (fun other hother => hfits.steps other (by simp [heq, hother]))
      (List.nil_append _).symm (hasDirectory_of_isGiven rfl)
  have hlast : (place.enter step).steps.getLast? = some step := by rw [heq, List.getLast?_concat]
  have hfront : (place.enter step).steps.dropLast = place.steps := by rw [heq, List.dropLast_concat]
  have hshort : ¬nameLimit < step.utf8ByteSize :=
    Nat.not_lt.mpr (hfits.steps step (List.mem_of_getLast? hlast))
  unfold target
  rw [if_neg (by simpa using hfits.no_zero), if_neg (by simpa using path_ne_empty hne hsteps),
    if_neg (Nat.not_le.mpr hfits.short), if_neg (by simp [hnew])]
  simp only [stepsOf_path hne hsteps, startOf_path hne hsteps, endsInSlash_path hne hsteps,
    enter_isRooted, hlast, hfront, except_bind_eq_ok_iff, hpassed]
  have hturn : (step == "." || step == ".." || false) = false := by
    simp [hstep.ne_here, hstep.ne_up]
  rw [hturn]
  constructor
  · rintro ⟨last, ⟨rfl, hexists⟩, hname⟩
    rw [if_neg Bool.false_ne_true, if_neg hshort] at hname
    split at hname
    next => cases hname
    next hfree => exact ⟨(Except.ok.inj hname).symm, hexists, by simpa using hfree⟩
  · rintro ⟨rfl, hexists, hfree⟩
    refine ⟨place, ⟨rfl, hexists⟩, ?_⟩
    rw [if_neg Bool.false_ne_true, if_neg hshort, if_neg (by simp [hfree])]

example : target [("build/other.txt", "")] "build/out.txt" = .ok "build/out.txt" := by decide

/-- A file that can be opened is known, or its name is one in a directory that exists. -/
theorem exists_of_target (h : files.target path = .ok name) :
    (name = path ∧ (files.content? path).isSome = true) ∨
      ∃ (place : Place) (step : String), place.IsDirect ∧ files.hasDirectory place = true ∧
        IsName step ∧ name = (place.enter step).path := by
  unfold target at h
  split at h
  next => cases h
  split at h
  next => cases h
  split at h
  next => cases h
  split at h
  next hknown =>
    obtain rfl := Except.ok.inj h
    exact .inl ⟨rfl, (Bool.and_eq_true _ _ ▸ hknown).2⟩
  obtain ⟨place, hplace, hname⟩ := except_bind_eq_ok_iff.mp h
  have hsteps : ∀ step ∈ stepsOf path, IsStep step := fun step => isStep_of_mem_stepsOf
  obtain ⟨hdirect, hexists⟩ := foldlM_enter_sound (isDirect_start _) (hasDirectory_of_isGiven rfl)
    (fun step hs => hsteps step ((List.dropLast_prefix _).subset hs)) hplace
  split at hname
  next => cases hname
  next step hlast =>
    split at hname
    next => cases hname
    next hturn =>
      split at hname
      next => cases hname
      split at hname
      next => cases hname
      simp only [Bool.or_eq_true, beq_iff_eq, not_or] at hturn
      obtain rfl := Except.ok.inj hname
      exact .inr ⟨place, step, hdirect, hexists,
        ⟨hsteps step (List.mem_of_getLast? hlast), hturn.1.1, hturn.1.2⟩, rfl⟩

/-- Opening a file for writing makes no directory. -/
theorem hasDirectory_append_of_target (h : files.target path = .ok name) (text : String)
    (place : Place) : (files.append name text).hasDirectory place = files.hasDirectory place := by
  have hplaces : ∀ between ∈ placesOf name, files.hasDirectory between = true := by
    rcases exists_of_target h with ⟨rfl, hknown⟩ | ⟨around, step, hdirect, hexists, hstep, rfl⟩
    · obtain ⟨content, hcontent⟩ := Option.isSome_iff_exists.mp hknown
      obtain ⟨others, rest, rfl, _⟩ := List.lookup_eq_some_iff.mp hcontent
      intro between hbetween
      exact hasDirectory_iff.mpr (.inr ⟨(name, content), by simp, hbetween⟩)
    · have heq := around.enter_of_isName hstep
      have hsteps := (hdirect.enter hstep.toIsStep).steps
      intro between hbetween
      rw [heq] at hsteps hbetween
      rw [placesOf_path (by simp) fun other hother => (hsteps other hother).1,
        List.dropLast_concat] at hbetween
      obtain ⟨front, hfront, rfl⟩ := hdirect.mem_through rfl hbetween
      exact hasDirectory_of_prefix hexists hfront
  rw [Bool.eq_iff_iff, hasDirectory_append_iff]
  exact or_iff_left_of_imp (hplaces place)

end Files

/-- The directories after a run are those before it, whether it fails or comes to a matrix. -/
theorem Configuration.hasDirectory_after_run (c : Configuration) (setting : Setting)
    (client : Option Feed.Client) (host : Host) (place : Place) :
    (c.run setting client host).state.files.hasDirectory place =
      host.files.hasDirectory place := by
  obtain ⟨herror, hok⟩ := commits_run c setting client host
  cases hresult : (c.run setting client host).result with
  | error fault => rw [herror fault hresult]
  | ok matrix =>
    have hpublishes := hok matrix hresult
    rw [Publishes] at hpublishes
    cases hpath : c.publicationPath? with
    | none =>
      rw [hpath] at hpublishes
      rw [hpublishes]
    | some path =>
      rw [hpath] at hpublishes
      obtain ⟨name, htarget, hfiles⟩ := hpublishes
      rw [hfiles]
      exact Files.hasDirectory_append_of_target htarget _ place

end ReleaseLines
