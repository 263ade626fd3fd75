import ReleaseLines.Calendar.DateReader
import ReleaseLines.Proofs.Text.Classes

namespace ReleaseLines.Date

open Text

/-- A character that a readable date can hold. -/
def IsCharacter (c : Char) : Prop := isDecimalDigit c = true ∨ c = '-' ∨ c = ' '

instance (c : Char) : Decidable (IsCharacter c) := inferInstanceAs (Decidable (_ ∨ _ ∨ _))

/-- What is left of a text after some characters of dates. -/
inductive Leaves : List Char → List Char → Prop
  | refl (cs : List Char) : Leaves cs cs
  | cons {c : Char} {cs rest : List Char} : IsCharacter c → Leaves cs rest → Leaves (c :: cs) rest

namespace Leaves

variable {cs rest after : List Char}

theorem single {c : Char} (h : IsCharacter c) : Leaves (c :: rest) rest := cons h (refl rest)

theorem pair {c d : Char} (hc : IsCharacter c) (hd : IsCharacter d) :
    Leaves (c :: d :: rest) rest :=
  cons hc (single hd)

theorem trans (first : Leaves cs rest) (second : Leaves rest after) : Leaves cs after := by
  induction first with
  | refl => exact second
  | cons hc _ ih => exact cons hc (ih second)

theorem isCharacter_of_mem (h : Leaves cs []) : ∀ c ∈ cs, IsCharacter c := by
  generalize hnil : ([] : List Char) = rest at h
  induction h with
  | refl =>
    subst hnil
    nofun
  | cons hc _ ih => exact List.forall_mem_cons.mpr ⟨hc, ih hnil⟩

end Leaves

theorem isCharacter_of_digitValue? {c : Char} {n : Nat} (h : digitValue? c = some n) :
    IsCharacter c :=
  .inl (by rw [isDecimalDigit, h]; rfl)

theorem isCharacter_of_digitFrom {low high c : Char} {n : Nat} (hlow : '0' ≤ low)
    (hhigh : high ≤ '9') (h : digitFrom low high c = some n) : IsCharacter c := by
  unfold digitFrom at h
  split at h
  next hbounds =>
    simp only [Bool.and_eq_true, decide_eq_true_eq] at hbounds
    have hfirst : '0'.toNat ≤ c.toNat := Char.le_def.mp (Char.le_trans hlow hbounds.1)
    have hlast : c.toNat ≤ '9'.toNat := Char.le_def.mp (Char.le_trans hbounds.2 hhigh)
    exact .inl (isDecimalDigit_iff.mpr ⟨0x30, by decide, hfirst, Nat.lt_succ_of_le hlast⟩)
  · cases h

theorem leaves_of_readYear {cs rest : List Char} {year : Nat}
    (h : readYear cs = some (year, rest)) : Leaves cs rest := by
  unfold readYear at h
  split at h
  next a b c d others =>
    obtain ⟨digits, hdigits, heq⟩ := Option.bind_eq_some_iff.mp h
    obtain ⟨_, rfl⟩ := Prod.mk.inj (Option.some.inj heq)
    simp only [List.mapM_cons, List.mapM_nil, Option.bind_eq_bind, Option.bind_eq_some_iff]
      at hdigits
    obtain ⟨_, ha, _, ⟨_, hb, _, ⟨_, hc, _, ⟨_, hd, _⟩, _⟩, _⟩, _⟩ := hdigits
    exact (Leaves.pair (isCharacter_of_digitValue? ha) (isCharacter_of_digitValue? hb)).trans
      (.pair (isCharacter_of_digitValue? hc) (isCharacter_of_digitValue? hd))
  · cases h

theorem leaves_of_digitFrom {low high c : Char} {cs rest : List Char} {n : Nat}
    (hlow : '0' ≤ low) (hhigh : high ≤ '9')
    (h : (digitFrom low high c).map (·, cs) = some (n, rest)) : Leaves (c :: cs) rest := by
  obtain ⟨units, hunits, heq⟩ := Option.map_eq_some_iff.mp h
  obtain ⟨_, rfl⟩ := Prod.mk.inj heq
  exact .single (isCharacter_of_digitFrom hlow hhigh hunits)

theorem leaves_of_readMonth {cs rest : List Char} {month : Nat}
    (h : readMonth cs = some (month, rest)) : Leaves cs rest := by
  have hone : IsCharacter '1' := by decide
  have hzero : IsCharacter '0' := by decide
  unfold readMonth at h
  split at h
  next c others =>
    split at h
    next units hunits =>
      obtain ⟨_, rfl⟩ := Prod.mk.inj (Option.some.inj h)
      exact .pair hone (isCharacter_of_digitFrom (by decide) (by decide) hunits)
    next =>
      obtain ⟨_, rfl⟩ := Prod.mk.inj (Option.some.inj h)
      exact .single hone
  · exact .cons hzero (leaves_of_digitFrom (by decide) (by decide) h)
  · exact leaves_of_digitFrom (by decide) (by decide) h
  · cases h

theorem leaves_of_readDay {cs rest : List Char} {day : Nat}
    (h : readDay cs = some (day, rest)) : Leaves cs rest := by
  have hthree : IsCharacter '3' := by decide
  have hzero : IsCharacter '0' := by decide
  have hblank : IsCharacter ' ' := by decide
  unfold readDay at h
  split at h
  next c others =>
    split at h
    next units hunits =>
      obtain ⟨_, rfl⟩ := Prod.mk.inj (Option.some.inj h)
      exact .pair hthree (isCharacter_of_digitFrom (by decide) (by decide) hunits)
    next =>
      obtain ⟨_, rfl⟩ := Prod.mk.inj (Option.some.inj h)
      exact .single hthree
  · exact .cons hzero (leaves_of_digitFrom (by decide) (by decide) h)
  · exact .cons hblank (leaves_of_digitFrom (by decide) (by decide) h)
  next tens c others _ _ _ =>
    split at h
    next t units htens hunits =>
      obtain ⟨_, rfl⟩ := Prod.mk.inj (Option.some.inj h)
      exact .pair (isCharacter_of_digitFrom (by decide) (by decide) htens)
        (isCharacter_of_digitValue? hunits)
    next => exact leaves_of_digitFrom (by decide) (by decide) h
  · exact leaves_of_digitFrom (by decide) (by decide) h
  · cases h

theorem leaves_of_afterHyphen {cs rest : List Char} (h : afterHyphen cs = some rest) :
    Leaves cs rest := by
  unfold afterHyphen at h
  split at h
  · obtain rfl := Option.some.inj h
    exact .single (.inr (.inl rfl))
  · cases h

/-- A readable date holds only digits, hyphens and blanks. -/
theorem isCharacter_of_read? {s : String} {date : Date} (h : read? s = some date) :
    ∀ c ∈ s.toList, IsCharacter c := by
  obtain ⟨⟨year, afterYear⟩, hyear, h⟩ := Option.bind_eq_some_iff.mp h
  obtain ⟨⟨month, afterMonth⟩, hmonth, h⟩ := Option.bind_eq_some_iff.mp h
  obtain ⟨⟨day, afterDay⟩, hday, h⟩ := Option.bind_eq_some_iff.mp h
  obtain ⟨monthPart, hfirst, hmonth⟩ := Option.bind_eq_some_iff.mp hmonth
  obtain ⟨dayPart, hsecond, hday⟩ := Option.bind_eq_some_iff.mp hday
  have hall : Leaves s.toList afterDay :=
    (leaves_of_readYear hyear).trans <|
      (leaves_of_afterHyphen hfirst).trans <|
      (leaves_of_readMonth hmonth).trans <|
      (leaves_of_afterHyphen hsecond).trans (leaves_of_readDay hday)
  simp only [Option.ite_none_right_eq_some, Bool.and_eq_true, List.isEmpty_iff] at h
  rw [h.1.1] at hall
  exact hall.isCharacter_of_mem

end ReleaseLines.Date
