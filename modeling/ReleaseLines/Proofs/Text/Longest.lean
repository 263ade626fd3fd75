import ReleaseLines.Proofs.Text.Pieces

namespace ReleaseLines.Text

/-- The longest text with a property that another begins with. -/
structure IsLongest (p : List Char → Prop) (text cs : List Char) : Prop where
  holds : p text
  isPrefix : text <+: cs
  greatest : ∀ other, p other → other <+: cs → other <+: text

theorem IsLongest.eq {p : List Char → Prop} {text other cs : List Char} (h : IsLongest p text cs)
    (h' : IsLongest p other cs) : text = other :=
  (h'.greatest text h.holds h.isPrefix).eq_of_length_le
    (h.greatest other h'.holds h'.isPrefix).length_le

/-- Takes something off the start of a text, if it is there, and leaves the rest. -/
abbrev Splitter := List Char → Option (List Char × List Char)

/-- A splitter that takes the longest text with a property, and nothing only where there is none. -/
structure Splits (split : Splitter) (p : List Char → Prop) : Prop where
  isLongest : ∀ cs text rest, split cs = some (text, rest) →
    cs = text ++ rest ∧ IsLongest p text cs
  not_prefix : ∀ cs, split cs = none → ∀ text, p text → ¬text <+: cs

/-- A text with one property and then one with another. -/
def Joined (p q : List Char → Prop) (cs : List Char) : Prop :=
  ∃ first second, cs = first ++ second ∧ p first ∧ q second

/-- A text with a property, or nothing. -/
def OrEmpty (p : List Char → Prop) (cs : List Char) : Prop := cs = [] ∨ p cs

/-- A text with the property can be prolonged only by characters of `k`. -/
def Resumes (p : List Char → Prop) (k : Char → Prop) : Prop :=
  ∀ text c rest, p text → p (text ++ c :: rest) → k c

/-- No text with the property begins with a character of `k`. -/
def StartsOutside (p : List Char → Prop) (k : Char → Prop) : Prop := ∀ c rest, p (c :: rest) → ¬k c

/-- Splits by one splitter and what that leaves by another. -/
def andThen (split other : Splitter) : Splitter := fun cs => do
  let (first, rest) ← split cs
  let (second, rest) ← other rest
  return (first ++ second, rest)

variable {p q : List Char → Prop} {k : Char → Prop} {split other : Splitter}

theorem StartsOutside.orEmpty (h : StartsOutside p k) : StartsOutside (OrEmpty p) k := by
  rintro c rest (hnil | hp)
  · cases hnil
  · exact h c rest hp

theorem StartsOutside.joined (h : StartsOutside p k) (h' : StartsOutside q k) :
    StartsOutside (Joined p q) k := by
  rintro c rest ⟨first, second, heq, hp, hq⟩
  cases first with
  | nil =>
    rw [List.nil_append] at heq
    exact h' c rest (heq ▸ hq)
  | cons d others =>
    obtain ⟨rfl, -⟩ := List.cons.inj heq
    exact h c others hp

theorem Resumes.orEmpty (h : Resumes p k) (hstart : ∀ c rest, p (c :: rest) → k c) :
    Resumes (OrEmpty p) k := by
  rintro text c rest (rfl | htext) (hnil | hlonger)
  · cases hnil
  · exact hstart c rest hlonger
  · simp at hnil
  · exact h text c rest htext hlonger

/-- Where something follows, the text before it is the longest one. -/
theorem IsLongest.eq_or_eq_nil {longest first second cs : List Char} (h : IsLongest p longest cs)
    (hresumes : Resumes p k) (hstarts : StartsOutside q k) (hp : p first) (hq : q second)
    (hfront : first ++ second <+: cs) : first = longest ∨ second = [] := by
  obtain ⟨more, hmore⟩ := h.greatest first hp ((List.prefix_append _ _).trans hfront)
  cases more with
  | nil => exact .inl (by rw [← hmore, List.append_nil])
  | cons c others =>
    cases second with
    | nil => exact .inr rfl
    | cons d following =>
      obtain ⟨tail, rfl⟩ := hfront
      obtain ⟨last, hlast⟩ := h.isPrefix
      have hc : k c := hresumes first c others hp (hmore ▸ h.holds)
      rw [← hmore, List.append_assoc, List.append_assoc, List.append_cancel_left_eq] at hlast
      obtain ⟨rfl, -⟩ := List.cons.inj hlast
      exact absurd hc (hstarts c following hq)

theorem Splits.andThen (h : Splits split p) (h' : Splits other q) (hresumes : Resumes p k)
    (hstarts : StartsOutside q k) : Splits (andThen split other) (Joined p q) where
  isLongest := by
    intro cs text rest hsplit
    obtain ⟨⟨first, following⟩, hfirst, hsplit⟩ := Option.bind_eq_some_iff.mp hsplit
    obtain ⟨⟨second, last⟩, hsecond, hsplit⟩ := Option.bind_eq_some_iff.mp hsplit
    obtain ⟨rfl, rfl⟩ := Prod.mk.inj (Option.some.inj hsplit)
    obtain ⟨hcs, hlongest⟩ := h.isLongest cs first following hfirst
    obtain ⟨hfollowing, hlongest'⟩ := h'.isLongest following second last hsecond
    subst hfollowing
    refine ⟨by rw [hcs, List.append_assoc], ⟨first, second, rfl, hlongest.holds, hlongest'.holds⟩,
      ⟨last, by rw [hcs, List.append_assoc]⟩, ?_⟩
    rintro _ ⟨x, y, rfl, hx, hy⟩ hfront
    -- Another way to divide the text has the same first part, or nothing after it.
    rcases hlongest.eq_or_eq_nil hresumes hstarts hx hy hfront with rfl | rfl
    · rw [hcs] at hfront
      have hy' := h'.isLongest _ second last hsecond |>.2.greatest y hy
        ((List.prefix_append_right_inj x).mp hfront)
      exact (List.prefix_append_right_inj x).mpr hy'
    · rw [List.append_nil] at hfront ⊢
      exact (hlongest.greatest x hx hfront).trans (List.prefix_append _ _)
  not_prefix := by
    rintro cs hsplit _ ⟨x, y, rfl, hx, hy⟩ hfront
    cases hfirst : split cs with
    | none => exact h.not_prefix cs hfirst x hx ((List.prefix_append _ _).trans hfront)
    | some found =>
      obtain ⟨first, following⟩ := found
      obtain ⟨hcs, hlongest⟩ := h.isLongest cs first following hfirst
      have hsecond : other following = none := by
        cases hother : other following with
        | none => rfl
        | some found => simp [Text.andThen, hfirst, hother] at hsplit
      rcases hlongest.eq_or_eq_nil hresumes hstarts hx hy hfront with rfl | rfl
      · rw [hcs] at hfront
        exact h'.not_prefix following hsecond y hy ((List.prefix_append_right_inj x).mp hfront)
      · exact h'.not_prefix following hsecond [] hy List.nil_prefix

theorem Splits.orEmpty (h : Splits split p) :
    Splits (fun cs => some ((split cs).getD ([], cs))) (OrEmpty p) where
  isLongest := by
    intro cs text rest hfound
    cases hsplit : split cs with
    | none =>
      rw [hsplit] at hfound
      obtain ⟨rfl, rfl⟩ := Prod.mk.inj (Option.some.inj hfound)
      refine ⟨rfl, .inl rfl, List.nil_prefix, ?_⟩
      rintro other (rfl | hp) hfront
      · exact List.nil_prefix
      · exact absurd hfront (h.not_prefix _ hsplit other hp)
    | some found =>
      rw [hsplit] at hfound
      obtain rfl : found = (text, rest) := Option.some.inj hfound
      obtain ⟨hcs, hlongest⟩ := h.isLongest cs text rest hsplit
      refine ⟨hcs, .inr hlongest.holds, hlongest.isPrefix, ?_⟩
      rintro other (rfl | hp) hfront
      · exact List.nil_prefix
      · exact hlongest.greatest other hp hfront
  not_prefix := by
    intro cs hsplit
    cases hsplit

/-- What another text begins with is not found where no text with both properties begins alike. -/
theorem Splits.orElse (h : Splits split p) (h' : Splits other q) (hp : ¬p []) (hq : ¬q [])
    (hexclusive : ∀ c first second, p (c :: first) → ¬q (c :: second)) :
    Splits (fun cs => split cs <|> other cs) (fun cs => p cs ∨ q cs) := by
  have hdisjoint {cs x y : List Char} (hx : p x) (hxcs : x <+: cs) (hy : q y) : ¬y <+: cs := by
    intro hycs
    cases x with
    | nil => exact hp hx
    | cons c first =>
      cases y with
      | nil => exact hq hy
      | cons d second =>
        obtain ⟨tail, rfl⟩ := hxcs
        obtain ⟨rfl, -⟩ := List.cons_prefix_cons.mp hycs
        exact hexclusive d first second hx hy
  constructor
  · intro cs text rest hfound
    cases hsplit : split cs with
    | some found =>
      rw [hsplit] at hfound
      obtain rfl : found = (text, rest) := Option.some.inj hfound
      obtain ⟨hcs, hlongest⟩ := h.isLongest cs text rest hsplit
      refine ⟨hcs, .inl hlongest.holds, hlongest.isPrefix, ?_⟩
      rintro longer (hlonger | hlonger) hfront
      · exact hlongest.greatest longer hlonger hfront
      · exact absurd hfront (hdisjoint hlongest.holds hlongest.isPrefix hlonger)
    | none =>
      rw [hsplit] at hfound
      obtain ⟨hcs, hlongest⟩ := h'.isLongest cs text rest hfound
      refine ⟨hcs, .inr hlongest.holds, hlongest.isPrefix, ?_⟩
      rintro longer (hlonger | hlonger) hfront
      · exact absurd hfront (h.not_prefix cs hsplit longer hlonger)
      · exact hlongest.greatest longer hlonger hfront
  · intro cs hfound
    obtain ⟨hsplit, hother⟩ : split cs = none ∧ other cs = none := by simpa using hfound
    rintro text (htext | htext)
    · exact h.not_prefix cs hsplit text htext
    · exact h'.not_prefix cs hother text htext

/-- What a splitter takes is the longest text with its property. -/
theorem Splits.map_fst_eq_some_iff (h : Splits split p) {cs text : List Char} :
    (split cs).map (·.1) = some text ↔ IsLongest p text cs := by
  constructor
  · intro hfound
    obtain ⟨⟨first, rest⟩, hsplit, rfl⟩ := Option.map_eq_some_iff.mp hfound
    exact (h.isLongest cs first rest hsplit).2
  · intro hlongest
    cases hsplit : split cs with
    | none => exact absurd hlongest.isPrefix (h.not_prefix cs hsplit text hlongest.holds)
    | some found =>
      obtain ⟨first, rest⟩ := found
      have hfirst := (h.isLongest cs first rest hsplit).2
      rw [Option.map_some, hfirst.eq hlongest]

end ReleaseLines.Text
