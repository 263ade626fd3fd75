import ReleaseLines.Console.Markup
import Mathlib.Data.List.Basic
import Mathlib.Tactic.ByContra

namespace ReleaseLines.Markup

/-- A tag stands at the start of a text. -/
def StartsTag (cs : List Char) : Prop :=
  ∃ c inner rest, cs = '[' :: c :: (inner ++ ']' :: rest) ∧ isTagStart c = true ∧ '[' ∉ inner

/-- A tag stands somewhere in a text. -/
def HasTag (cs : List Char) : Prop := ∃ before after, cs = before ++ after ∧ StartsTag after

/-- A text ends in one backslash and not in two. -/
def EndsAlone (cs : List Char) : Prop :=
  ∃ before, cs = before ++ ['\\'] ∧ before.getLast? ≠ some '\\'

/-- A text in which nothing can be taken for markup. -/
structure IsInert (s : String) : Prop where
  no_tag : ¬HasTag s.toList
  no_lone_end : ¬EndsAlone s.toList

theorem closeTag?_isSome_iff {cs : List Char} :
    (closeTag? cs).isSome = true ↔ ∃ inner rest, cs = inner ++ ']' :: rest ∧ '[' ∉ inner := by
  induction cs with
  | nil => simp [closeTag?]
  | cons c tail ih =>
    unfold closeTag?
    split
    next hclose =>
      obtain rfl := beq_iff_eq.mp hclose
      exact ⟨fun _ => ⟨[], tail, rfl, List.not_mem_nil⟩, fun _ => rfl⟩
    next hclose =>
      rw [beq_iff_eq] at hclose
      split
      next hopen =>
        obtain rfl := beq_iff_eq.mp hopen
        constructor
        · intro hsome
          cases hsome
        · rintro ⟨inner, rest, heq, hinner⟩
          cases inner with
          | nil => exact absurd (List.cons.inj heq).1 (by decide)
          | cons d others =>
            obtain rfl := (List.cons.inj heq).1
            exact absurd List.mem_cons_self hinner
      next hopen =>
        rw [beq_iff_eq] at hopen
        rw [Option.isSome_map, ih]
        constructor
        · rintro ⟨inner, rest, rfl, hinner⟩
          refine ⟨c :: inner, rest, rfl, ?_⟩
          rw [List.mem_cons, not_or]
          exact ⟨Ne.symm hopen, hinner⟩
        · rintro ⟨inner, rest, heq, hinner⟩
          cases inner with
          | nil => exact absurd (List.cons.inj heq).1 hclose
          | cons d others =>
            obtain ⟨rfl, rfl⟩ := List.cons.inj heq
            exact ⟨others, rest, rfl, fun h => hinner (List.mem_cons_of_mem _ h)⟩

theorem tag?_isSome_iff {cs : List Char} : (tag? cs).isSome = true ↔ StartsTag cs := by
  unfold tag?
  split
  next c tail =>
    split
    next hstart =>
      rw [Option.isSome_map, closeTag?_isSome_iff]
      constructor
      · rintro ⟨inner, rest, rfl, hinner⟩
        exact ⟨c, inner, rest, rfl, hstart, hinner⟩
      · rintro ⟨d, inner, rest, heq, _, hinner⟩
        obtain ⟨rfl, rfl⟩ := List.cons.inj (List.cons.inj heq).2
        exact ⟨inner, rest, rfl, hinner⟩
    next hstart =>
      refine ⟨nofun, ?_⟩
      rintro ⟨d, inner, rest, heq, hd, _⟩
      obtain rfl := (List.cons.inj (List.cons.inj heq).2).1
      exact absurd hd hstart
  next hform =>
    refine ⟨nofun, ?_⟩
    rintro ⟨d, inner, rest, rfl, _⟩
    exact absurd rfl (hform d _)

theorem tag?_eq_none_iff {cs : List Char} : tag? cs = none ↔ ¬StartsTag cs := by
  rw [← tag?_isSome_iff, Bool.not_eq_true, Option.isSome_eq_false_iff, Option.isNone_iff_eq_none]

theorem closeTag?_sound {cs inner rest : List Char} (h : closeTag? cs = some (inner, rest)) :
    cs = inner ++ ']' :: rest := by
  induction cs generalizing inner with
  | nil => cases h
  | cons c tail ih =>
    unfold closeTag? at h
    split at h
    next hclose =>
      obtain ⟨rfl, rfl⟩ := Prod.mk.inj (Option.some.inj h)
      rw [beq_iff_eq.mp hclose, List.nil_append]
    · split at h
      · cases h
      · obtain ⟨⟨others, after⟩, hothers, heq⟩ := Option.map_eq_some_iff.mp h
        obtain ⟨rfl, rfl⟩ := Prod.mk.inj heq
        rw [ih hothers, List.cons_append]

theorem tag?_sound {cs tag rest : List Char} (h : tag? cs = some (tag, rest)) : cs = tag ++ rest := by
  unfold tag? at h
  split at h
  · split at h
    · obtain ⟨⟨inner, after⟩, hinner, heq⟩ := Option.map_eq_some_iff.mp h
      obtain ⟨rfl, rfl⟩ := Prod.mk.inj heq
      rw [closeTag?_sound hinner]
      simp
    · cases h
  · cases h

theorem not_startsTag_of_ne {c : Char} {cs : List Char} (h : c ≠ '[') : ¬StartsTag (c :: cs) := by
  rintro ⟨d, inner, rest, heq, _⟩
  exact h (List.cons.inj heq).1

theorem hasTag_cons_iff {c : Char} {cs : List Char} :
    HasTag (c :: cs) ↔ StartsTag (c :: cs) ∨ HasTag cs := by
  constructor
  · rintro ⟨before, after, heq, hstarts⟩
    cases before with
    | nil =>
      left
      rwa [heq]
    | cons d others => exact .inr ⟨others, after, (List.cons.inj heq).2, hstarts⟩
  · rintro (hstarts | ⟨before, after, rfl, hstarts⟩)
    · exact ⟨[], c :: cs, rfl, hstarts⟩
    · exact ⟨c :: before, after, rfl, hstarts⟩

theorem not_hasTag_nil : ¬HasTag [] := by
  rintro ⟨before, after, heq, c, inner, rest, rfl, _⟩
  simp at heq

theorem hasTag_append_iff {plain cs : List Char} (h : '[' ∉ plain) :
    HasTag (plain ++ cs) ↔ HasTag cs := by
  induction plain with
  | nil => rfl
  | cons c rest ih =>
    obtain ⟨hne, hrest⟩ := not_or.mp (mt List.mem_cons.mpr h)
    rw [List.cons_append, hasTag_cons_iff, ih hrest]
    exact or_iff_right (not_startsTag_of_ne (Ne.symm hne))

theorem escapeTags_of_tag {run : Nat} {cs tag tail : List Char} (h : tag? cs = some (tag, tail)) :
    escapeTags run cs = List.replicate (2 * run + 1) '\\' ++ tag ++ escapeTags 0 tail := by
  cases cs with
  | nil => cases h
  | cons c rest =>
    have hstarts : StartsTag (c :: rest) := tag?_isSome_iff.mp (by rw [h]; rfl)
    have hopen : c = '[' := by_contra fun hne => not_startsTag_of_ne hne hstarts
    rw [escapeTags, if_neg (by simp [hopen])]
    split
    next found after hfound =>
      obtain ⟨rfl, rfl⟩ := Prod.mk.inj (Option.some.inj (hfound.symm.trans h))
      rfl
    next hnone => cases hnone.symm.trans h

theorem escapeTags_cons {run : Nat} {c : Char} {rest : List Char} (h : ¬StartsTag (c :: rest)) :
    escapeTags run (c :: rest) =
      if c = '\\' then escapeTags (run + 1) rest
      else List.replicate run '\\' ++ c :: escapeTags 0 rest := by
  rw [escapeTags]
  simp only [beq_iff_eq]
  split
  · rfl
  · split
    next found after hfound => cases hfound.symm.trans (tag?_eq_none_iff.mpr h)
    next => rfl

theorem escapeTags_of_not_hasTag {run : Nat} {cs : List Char} (h : ¬HasTag cs) :
    escapeTags run cs = List.replicate run '\\' ++ cs := by
  induction cs generalizing run with
  | nil => rw [escapeTags, List.append_nil]
  | cons c rest ih =>
    obtain ⟨hstarts, hrest⟩ := not_or.mp (mt hasTag_cons_iff.mpr h)
    rw [escapeTags_cons hstarts]
    split
    next hback => rw [ih hrest, List.replicate_succ', List.append_assoc, hback, List.singleton_append]
    next => rw [ih hrest, List.replicate_zero, List.nil_append]

/-- Escaping drops nothing, and it adds something at every tag. -/
theorem escapeTags_length (run : Nat) (cs : List Char) :
    run + cs.length ≤ (escapeTags run cs).length ∧
      (HasTag cs → run + cs.length < (escapeTags run cs).length) := by
  -- A tag is passed over as a whole, so the induction is on the length and not on the list.
  induction hn : cs.length using Nat.strongRecOn generalizing run cs with
  | ind n ih =>
    cases cs with
    | nil =>
      rw [escapeTags, List.length_replicate, ← hn]
      exact ⟨Nat.le_refl _, fun h => absurd h not_hasTag_nil⟩
    | cons c rest =>
      subst hn
      cases htag : tag? (c :: rest) with
      | some found =>
        obtain ⟨tag, tail⟩ := found
        have hlength := congrArg List.length (tag?_sound htag)
        rw [List.length_append] at hlength
        have htail := (ih tail.length (tag?_length htag) 0 tail rfl).1
        rw [escapeTags_of_tag htag, List.length_append, List.length_append, List.length_replicate]
        omega
      | none =>
        have hstarts := tag?_eq_none_iff.mp htag
        have hlater : HasTag (c :: rest) → HasTag rest := fun h =>
          (hasTag_cons_iff.mp h).resolve_left hstarts
        rw [escapeTags_cons hstarts]
        split
        · obtain ⟨hle, hlt⟩ := ih rest.length (Nat.lt_succ_self _) (run + 1) rest rfl
          rw [List.length_cons]
          exact ⟨by omega, fun h => by have := hlt (hlater h); omega⟩
        · obtain ⟨hle, hlt⟩ := ih rest.length (Nat.lt_succ_self _) 0 rest rfl
          rw [List.length_append, List.length_replicate, List.length_cons, List.length_cons]
          exact ⟨by omega, fun h => by have := hlt (hlater h); omega⟩

theorem endsAlone_concat_iff {before : List Char} {c : Char} :
    EndsAlone (before ++ [c]) ↔ c = '\\' ∧ before.getLast? ≠ some '\\' := by
  constructor
  · rintro ⟨others, heq, hlast⟩
    obtain ⟨rfl, hc⟩ := List.append_inj' heq rfl
    exact ⟨(List.cons.inj hc).1, hlast⟩
  · rintro ⟨rfl, hlast⟩
    exact ⟨before, rfl, hlast⟩

theorem not_endsAlone_nil : ¬EndsAlone [] := by
  rintro ⟨before, heq, _⟩
  simp at heq

theorem closeEnd_of_endsAlone {cs : List Char} (h : EndsAlone cs) : closeEnd cs = cs ++ ['\\'] := by
  obtain ⟨before, rfl, hlast⟩ := h
  rcases before.eq_nil_or_concat' with rfl | ⟨others, d, rfl⟩
  · rfl
  · have hne : d ≠ '\\' := fun hd => hlast (by rw [hd, List.getLast?_concat])
    simp [closeEnd, hne]

theorem closeEnd_of_not_endsAlone {cs : List Char} (h : ¬EndsAlone cs) : closeEnd cs = cs := by
  rcases cs.eq_nil_or_concat' with rfl | ⟨before, c, rfl⟩
  · rfl
  · by_cases hback : c = '\\'
    · rcases before.eq_nil_or_concat' with rfl | ⟨others, d, rfl⟩
      · exact absurd ⟨[], by rw [hback], by simp⟩ h
      · have hd : d = '\\' := by
          by_contra hne
          exact h (endsAlone_concat_iff.mpr ⟨hback, by simpa using hne⟩)
        simp [closeEnd, hback, hd]
    · simp [closeEnd, hback]

theorem escapeChars_eq_self_iff {cs : List Char} :
    escapeChars cs = cs ↔ ¬HasTag cs ∧ ¬EndsAlone cs := by
  constructor
  · intro h
    -- A text with a tag gets longer, and what is done to its end does not take that back.
    have hplain : ¬HasTag cs := by
      intro htag
      have hlonger := (escapeTags_length 0 cs).2 htag
      have hkept : (escapeTags 0 cs).length ≤ (escapeChars cs).length := by
        by_cases hend : EndsAlone (escapeTags 0 cs)
        · rw [escapeChars, closeEnd_of_endsAlone hend, List.length_append]
          exact Nat.le_add_right _ _
        · exact Nat.le_of_eq (by rw [escapeChars, closeEnd_of_not_endsAlone hend])
      rw [h] at hkept
      omega
    refine ⟨hplain, fun hend => ?_⟩
    rw [escapeChars, escapeTags_of_not_hasTag hplain, List.replicate_zero, List.nil_append,
      closeEnd_of_endsAlone hend] at h
    simpa using congrArg List.length h
  · rintro ⟨hplain, hend⟩
    rw [escapeChars, escapeTags_of_not_hasTag hplain, List.replicate_zero, List.nil_append,
      closeEnd_of_not_endsAlone hend]

/-- Escaping leaves alone just what cannot be taken for markup. -/
theorem escape_eq_self_iff {s : String} : escape s = s ↔ IsInert s := by
  have hchars : escape s = s ↔ escapeChars s.toList = s.toList := by
    rw [← String.toList_inj, escape, String.toList_ofList]
  rw [hchars, escapeChars_eq_self_iff]
  exact ⟨fun h => ⟨h.1, h.2⟩, fun h => ⟨h.no_tag, h.no_lone_end⟩⟩

theorem isInert_of_plain {s : String} (h : ∀ c ∈ s.toList, c ≠ '[' ∧ c ≠ '\\') : IsInert s where
  no_tag := by
    rintro ⟨before, after, heq, c, inner, rest, rfl, _⟩
    exact (h '[' (by rw [heq]; simp)).1 rfl
  no_lone_end := by
    rintro ⟨before, heq, _⟩
    exact (h '\\' (by rw [heq]; simp)).2 rfl

/-- What stands in front of a text does not matter where it holds no bracket and no backslash. -/
theorem isInert_append_iff {front s : String} (h : ∀ c ∈ front.toList, c ≠ '[' ∧ c ≠ '\\') :
    IsInert (front ++ s) ↔ IsInert s := by
  have htag : HasTag (front ++ s).toList ↔ HasTag s.toList := by
    rw [String.toList_append]
    exact hasTag_append_iff fun hmem => (h _ hmem).1 rfl
  have hend : EndsAlone (front ++ s).toList ↔ EndsAlone s.toList := by
    rw [String.toList_append]
    rcases s.toList.eq_nil_or_concat' with hnil | ⟨before, c, heq⟩
    · rw [hnil, List.append_nil]
      refine iff_of_false ?_ not_endsAlone_nil
      rintro ⟨others, hfront, _⟩
      exact (h '\\' (by rw [hfront]; simp)).2 rfl
    · have hback : front.toList.getLast? ≠ some '\\' := fun hlast =>
        (h _ (List.mem_of_getLast? hlast)).2 rfl
      rw [heq, ← List.append_assoc, endsAlone_concat_iff, endsAlone_concat_iff]
      refine and_congr_right fun _ => not_congr ?_
      rw [List.getLast?_append]
      cases before.getLast? with
      | none => exact iff_of_false hback nofun
      | some d => rfl
  constructor
  · intro hinert
    exact ⟨mt htag.mpr hinert.no_tag, mt hend.mpr hinert.no_lone_end⟩
  · intro hinert
    exact ⟨mt htag.mp hinert.no_tag, mt hend.mp hinert.no_lone_end⟩

end ReleaseLines.Markup
