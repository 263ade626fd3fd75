import ReleaseLines.Interpreter.VersionText
import ReleaseLines.Proofs.Text.Classes
import ReleaseLines.Proofs.Text.Longest
import Mathlib.Data.List.Infix

namespace ReleaseLines.VersionText

open Text

/-- One digit or more, of any script. -/
def IsNumber (cs : List Char) : Prop := cs ≠ [] ∧ ∀ c ∈ cs, isDecimalDigit c = true

/-- A dot and a number. -/
def IsDotted (cs : List Char) : Prop := ∃ number, cs = '.' :: number ∧ IsNumber number

/-- The letters of a word in any letter case. -/
def Spells (word cs : List Char) : Prop := cs.map Char.toLower = word

/-- The mark of a stage before the final release: `a`, `b` or `rc`, and a number. -/
def IsStage (cs : List Char) : Prop :=
  (Joined (Spells ['a']) IsNumber cs ∨ Joined (Spells ['b']) IsNumber cs) ∨
    Joined (Spells ['r', 'c']) IsNumber cs

def IsPlus (cs : List Char) : Prop := cs = ['+']

/-- Two numbers with a dot between. -/
def IsLine : List Char → Prop := Joined IsNumber IsDotted

/-- What may follow the first two numbers of a version: a third one, the mark of a stage and a plus
sign. -/
def IsTail : List Char → Prop :=
  Joined (OrEmpty IsDotted) (Joined (OrEmpty IsStage) (OrEmpty IsPlus))

/-- A version as interpreters print it. -/
def IsRelease : List Char → Prop := Joined IsNumber (Joined IsDotted IsTail)

theorem IsDotted.eq_dot {c : Char} {rest : List Char} (h : IsDotted (c :: rest)) : c = '.' := by
  obtain ⟨number, heq, _⟩ := h
  exact (List.cons.inj heq).1

theorem toLower_of_joined_spells {w c : Char} {word rest : List Char} {p : List Char → Prop}
    (h : Joined (Spells (w :: word)) p (c :: rest)) : c.toLower = w := by
  obtain ⟨first, second, heq, hfirst, _⟩ := h
  cases first with
  | nil => cases hfirst
  | cons d others =>
    obtain ⟨rfl, -⟩ := List.cons.inj heq
    exact (List.cons.inj hfirst).1

theorem not_joined_spells_nil {w : Char} {word : List Char} {p : List Char → Prop} :
    ¬Joined (Spells (w :: word)) p [] := by
  rintro ⟨first, second, heq, hfirst, _⟩
  obtain ⟨rfl, -⟩ := List.nil_eq_append_iff.mp heq
  cases hfirst

/-- The mark of a stage begins with a letter. -/
theorem IsStage.bounds {c : Char} {rest : List Char} (h : IsStage (c :: rest)) :
    65 ≤ c.toNat ∧ c.toNat ≤ 122 := by
  rcases h with (h | h) | h
  · exact bounds_of_toLower (toLower_of_joined_spells h) (by decide) (by decide)
  · exact bounds_of_toLower (toLower_of_joined_spells h) (by decide) (by decide)
  · exact bounds_of_toLower (toLower_of_joined_spells h) (by decide) (by decide)

theorem resumes_number : Resumes IsNumber (isDecimalDigit · = true) :=
  fun _ c _ _ h => h.2 c (by simp)

theorem resumes_dotted : Resumes IsDotted (isDecimalDigit · = true) := by
  rintro text c rest ⟨number, rfl, _⟩ ⟨longer, hlonger, hnumber⟩
  obtain ⟨-, rfl⟩ := List.cons.inj hlonger
  exact hnumber.2 c (by simp)

/-- Letters of a word are not followed by another one of it. -/
theorem resumes_spells (word : List Char) : Resumes (Spells word) fun _ => False := by
  intro text c rest h h'
  have hlength := congrArg List.length (h.trans h'.symm)
  simp at hlength

theorem startsOutside_plus {k : Char → Prop} (h : ¬k '+') : StartsOutside (OrEmpty IsPlus) k := by
  rintro c rest (hnil | hplus)
  · cases hnil
  · obtain ⟨rfl, -⟩ := List.cons.inj hplus
    exact h

theorem startsOutside_stage {k : Char → Prop} (h : ∀ c, 65 ≤ c.toNat → c.toNat ≤ 122 → ¬k c) :
    StartsOutside (OrEmpty IsStage) k :=
  StartsOutside.orEmpty fun c _ hstage => h c hstage.bounds.1 hstage.bounds.2

theorem startsOutside_dotted {k : Char → Prop} (h : ¬k '.') : StartsOutside IsDotted k :=
  fun _ _ hdotted => hdotted.eq_dot ▸ h

theorem startsOutside_digits_dotted : StartsOutside IsDotted (isDecimalDigit · = true) :=
  startsOutside_dotted (by decide)

theorem startsOutside_digits_tail : StartsOutside IsTail (isDecimalDigit · = true) :=
  .joined (.orEmpty startsOutside_digits_dotted)
    (.joined (startsOutside_stage fun c hlow hhigh => by
      simp [isDecimalDigit_of_letter ⟨hlow, hhigh⟩]) (startsOutside_plus (by decide)))

theorem splits_digits : Splits digits? IsNumber where
  isLongest := by
    intro cs text rest h
    simp only [digits?] at h
    split at h
    · cases h
    next hne =>
      obtain ⟨rfl, rfl⟩ := Prod.mk.inj (Option.some.inj h)
      have hdigits : ∀ c ∈ cs.takeWhile isDecimalDigit, isDecimalDigit c = true :=
        fun c hc => List.mem_takeWhile_imp hc
      refine ⟨List.takeWhile_append_dropWhile.symm, ⟨by simpa using hne, hdigits⟩,
        List.takeWhile_prefix _, ?_⟩
      rintro other ⟨_, hother⟩ ⟨tail, rfl⟩
      rw [List.takeWhile_append_of_pos hother]
      exact List.prefix_append _ _
  not_prefix := by
    rintro cs h (_ | ⟨c, others⟩) ⟨hne, hdigits⟩ ⟨tail, rfl⟩
    · exact hne rfl
    · have hc : isDecimalDigit c = true := hdigits c (by simp)
      simp [digits?, hc] at h

theorem splits_dotDigits : Splits dotDigits? IsDotted where
  isLongest := by
    intro cs text rest h
    unfold dotDigits? at h
    split at h
    next following =>
      obtain ⟨⟨number, last⟩, hnumber, heq⟩ := Option.map_eq_some_iff.mp h
      obtain ⟨rfl, rfl⟩ := Prod.mk.inj heq
      obtain ⟨rfl, hlongest⟩ := splits_digits.isLongest _ number last hnumber
      refine ⟨rfl, ⟨number, rfl, hlongest.holds⟩, List.prefix_append _ _, ?_⟩
      rintro _ ⟨other, rfl, hother⟩ hfront
      have hsame := (List.cons_prefix_cons.mp hfront).2
      exact List.cons_prefix_cons.mpr ⟨rfl, hlongest.greatest other hother hsame⟩
    next => cases h
  not_prefix := by
    rintro cs h _ ⟨number, rfl, hnumber⟩ ⟨tail, rfl⟩
    have hnone : digits? (number ++ tail) = none := Option.map_eq_none_iff.mp h
    exact splits_digits.not_prefix _ hnone number hnumber (List.prefix_append _ _)

theorem afterWord?_eq_some_iff {word cs rest : List Char} :
    afterWord? word cs = some rest ↔ ∃ first, cs = first ++ rest ∧ Spells word first := by
  induction word generalizing cs with
  | nil => simp [afterWord?, Spells]
  | cons w word ih =>
    cases cs with
    | nil => simp [afterWord?, Spells]
    | cons c others =>
      rw [afterWord?]
      constructor
      · intro h
        split at h
        next hc =>
          obtain ⟨first, rfl, hfirst⟩ := ih.mp h
          exact ⟨c :: first, rfl, congrArg₂ List.cons (beq_iff_eq.mp hc) hfirst⟩
        next => cases h
      · rintro ⟨first, heq, hfirst⟩
        cases first with
        | nil => cases hfirst
        | cons d tail =>
          obtain ⟨rfl, rfl⟩ := List.cons.inj heq
          obtain ⟨hd, htail⟩ := List.cons.inj hfirst
          rw [if_pos (beq_iff_eq.mpr hd)]
          exact ih.mpr ⟨tail, rfl, htail⟩

/-- Splits a word off, in any letter case. -/
def splitWord (word : List Char) : Splitter := fun cs =>
  (afterWord? word cs).map fun rest => (cs.take word.length, rest)

theorem splits_word (word : List Char) : Splits (splitWord word) (Spells word) where
  isLongest := by
    intro cs text rest h
    obtain ⟨following, hword, heq⟩ := Option.map_eq_some_iff.mp h
    obtain ⟨rfl, rfl⟩ := Prod.mk.inj heq
    obtain ⟨first, rfl, hfirst⟩ := afterWord?_eq_some_iff.mp hword
    have hlength : word.length = first.length := by rw [← hfirst, List.length_map]
    have htake : (first ++ following).take word.length = first := by
      rw [hlength, List.take_left]
    rw [htake]
    refine ⟨rfl, hfirst, List.prefix_append _ _, ?_⟩
    intro other hother hfront
    have hsame : other.length = first.length := by
      rw [← hlength, ← hother, List.length_map]
    exact List.prefix_of_prefix_length_le hfront (List.prefix_append _ _) hsame.le
  not_prefix := by
    rintro cs h text htext ⟨tail, rfl⟩
    have hnone := Option.map_eq_none_iff.mp h
    rw [afterWord?_eq_some_iff.mpr ⟨text, rfl, htext⟩] at hnone
    cases hnone

theorem splits_lettersDigits (letters : List Char) :
    Splits (lettersDigits? letters) (Joined (Spells letters) IsNumber) := by
  have hsplit : lettersDigits? letters = andThen (splitWord letters) digits? := by
    funext cs
    rw [lettersDigits?, andThen, splitWord]
    cases afterWord? letters cs with
    | none => rfl
    | some rest => cases digits? rest <;> rfl
  rw [hsplit]
  exact (splits_word letters).andThen splits_digits (resumes_spells letters) fun _ _ _ => id

theorem splits_stage : Splits stage? IsStage := by
  have hexclusive {p q : List Char → Prop} {v w : Char} (word word' : List Char) (hne : v ≠ w) :
      ∀ c first second, Joined (Spells (v :: word)) p (c :: first) →
        ¬Joined (Spells (w :: word')) q (c :: second) :=
    fun _ _ _ h h' => hne ((toLower_of_joined_spells h).symm.trans (toLower_of_joined_spells h'))
  refine ((splits_lettersDigits ['a']).orElse (splits_lettersDigits ['b']) not_joined_spells_nil
    not_joined_spells_nil (hexclusive _ _ (by decide))).orElse (splits_lettersDigits ['r', 'c'])
    ?_ not_joined_spells_nil ?_
  · rintro (h | h)
    · exact not_joined_spells_nil h
    · exact not_joined_spells_nil h
  · rintro c first second (h | h)
    · exact hexclusive _ _ (by decide) c first second h
    · exact hexclusive _ _ (by decide) c first second h

/-- Splits a plus sign off. -/
def splitPlus : Splitter
  | '+' :: rest => some (['+'], rest)
  | _ => none

theorem splits_plus : Splits splitPlus IsPlus where
  isLongest := by
    intro cs text rest h
    unfold splitPlus at h
    split at h
    next following =>
      obtain ⟨rfl, rfl⟩ := Prod.mk.inj (Option.some.inj h)
      refine ⟨rfl, rfl, List.prefix_append ['+'] _, ?_⟩
      rintro other rfl _
      exact List.prefix_rfl
    next => cases h
  not_prefix := by
    rintro cs h text rfl ⟨tail, rfl⟩
    cases h

theorem IsStage.letter_or_digit {cs : List Char} (h : IsStage cs) {c : Char} (hc : c ∈ cs) :
    65 ≤ c.toNat ∧ c.toNat ≤ 122 ∨ isDecimalDigit c = true := by
  have hjoined {word : List Char} (hword : ∀ w ∈ word, 97 ≤ w.toNat ∧ w.toNat ≤ 122)
      (h : Joined (Spells word) IsNumber cs) :
      65 ≤ c.toNat ∧ c.toNat ≤ 122 ∨ isDecimalDigit c = true := by
    obtain ⟨first, number, rfl, hfirst, hnumber⟩ := h
    rcases List.mem_append.mp hc with hc | hc
    · have hw : c.toLower ∈ word := hfirst ▸ List.mem_map_of_mem hc
      exact .inl (bounds_of_toLower rfl (hword _ hw).1 (hword _ hw).2)
    · exact .inr (hnumber.2 c hc)
  rcases h with (h | h) | h
  · exact hjoined (by simp) h
  · exact hjoined (by simp) h
  · exact hjoined (by simp) h

theorem IsStage.ne_plus {cs : List Char} (h : IsStage cs) {c : Char} (hc : c ∈ cs) : c ≠ '+' := by
  rintro rfl
  rcases h.letter_or_digit hc with hletter | hdigit
  · exact absurd hletter (by decide)
  · exact absurd hdigit (by decide)

/-- Takes what a splitter finds, and nothing where it finds nothing. -/
def orNothing (split : Splitter) : Splitter := fun cs => some (optional split cs)

theorem splits_tail :
    Splits (andThen (orNothing dotDigits?) (andThen (orNothing stage?) (orNothing splitPlus)))
      IsTail := by
  have hdotted : Resumes (OrEmpty IsDotted) fun c => isDecimalDigit c = true ∨ c = '.' := by
    refine Resumes.orEmpty ?_ fun c rest h => .inr h.eq_dot
    exact fun text c rest h h' => .inl (resumes_dotted text c rest h h')
  have hstage : Resumes (OrEmpty IsStage) (· ≠ '+') :=
    Resumes.orEmpty (fun _ _ _ _ h => h.ne_plus (by simp)) fun _ _ h => h.ne_plus (by simp)
  have hafter : StartsOutside (Joined (OrEmpty IsStage) (OrEmpty IsPlus))
      fun c => isDecimalDigit c = true ∨ c = '.' := by
    refine .joined (startsOutside_stage ?_) (startsOutside_plus (by decide))
    rintro c hlow hhigh (hdigit | rfl)
    · rw [isDecimalDigit_of_letter ⟨hlow, hhigh⟩] at hdigit
      cases hdigit
    · exact absurd hlow (by decide)
  refine splits_dotDigits.orEmpty.andThen ?_ hdotted hafter
  exact splits_stage.orEmpty.andThen splits_plus.orEmpty hstage
    (startsOutside_plus (not_not.mpr rfl))

theorem splits_release :
    Splits (andThen digits? (andThen dotDigits?
      (andThen (orNothing dotDigits?) (andThen (orNothing stage?) (orNothing splitPlus)))))
      IsRelease :=
  splits_digits.andThen (splits_dotDigits.andThen splits_tail resumes_dotted startsOutside_digits_tail)
    resumes_number (.joined startsOutside_digits_dotted startsOutside_digits_tail)

theorem atStart?_eq_splits (cs : List Char) :
    atStart? cs = (andThen digits? (andThen dotDigits?
      (andThen (orNothing dotDigits?) (andThen (orNothing stage?) (orNothing splitPlus)))) cs).map
        (·.1) := by
  rw [atStart?, andThen]
  cases digits? cs with
  | none => rfl
  | some first =>
    cases hsecond : dotDigits? first.2 with
    | none => simp [hsecond, andThen]
    | some second =>
      have hplus (rest : List Char) :
          (if rest.head? = some '+' then ['+'] else []) = (optional splitPlus rest).1 := by
        unfold optional splitPlus
        split
        next h =>
          obtain ⟨tail, rfl⟩ := List.head?_eq_some_iff.mp h
          rfl
        next h =>
          split
          · exact absurd rfl h
          · rfl
      simp [hsecond, andThen, orNothing, hplus, List.append_assoc]

/-- What is taken for the version at the start of a text is the longest version there. -/
theorem atStart?_eq_some_iff {cs version : List Char} :
    atStart? cs = some version ↔ IsLongest IsRelease version cs := by
  rw [atStart?_eq_splits]
  exact splits_release.map_fst_eq_some_iff

theorem IsDotted.isBlank_of_mem {cs : List Char} (h : IsDotted cs) {c : Char} (hc : c ∈ cs) :
    isBlank c = false := by
  obtain ⟨number, rfl, hnumber⟩ := h
  rcases List.mem_cons.mp hc with rfl | hc
  · rfl
  · exact isBlank_of_isDecimalDigit (hnumber.2 c hc)

theorem IsTail.isBlank_of_mem {cs : List Char} (h : IsTail cs) {c : Char} (hc : c ∈ cs) :
    isBlank c = false := by
  obtain ⟨third, _, rfl, hthird, stage, plus, rfl, hstage, hplus⟩ := h
  rcases List.mem_append.mp hc with hc | hc
  · rcases hthird with rfl | hthird
    · cases hc
    · exact hthird.isBlank_of_mem hc
  rcases List.mem_append.mp hc with hc | hc
  · rcases hstage with rfl | hstage
    · cases hc
    · rcases hstage.letter_or_digit hc with hletter | hdigit
      · exact isBlank_of_letter hletter
      · exact isBlank_of_isDecimalDigit hdigit
  · rcases hplus with rfl | rfl
    · cases hc
    · obtain rfl := List.mem_singleton.mp hc
      rfl

theorem IsRelease.isBlank_of_mem {version : List Char} (h : IsRelease version) {c : Char}
    (hc : c ∈ version) : isBlank c = false := by
  obtain ⟨first, _, rfl, hfirst, second, tail, rfl, hsecond, htail⟩ := h
  rcases List.mem_append.mp hc with hc | hc
  · exact isBlank_of_isDecimalDigit (hfirst.2 c hc)
  rcases List.mem_append.mp hc with hc | hc
  · exact hsecond.isBlank_of_mem hc
  · exact htail.isBlank_of_mem hc

theorem IsRelease.ne_nil {version : List Char} (h : IsRelease version) : version ≠ [] := by
  obtain ⟨first, second, rfl, hfirst, _⟩ := h
  simp [hfirst.1]

theorem IsLine.isRelease {line : List Char} (h : IsLine line) : IsRelease line := by
  obtain ⟨first, second, rfl, hfirst, hsecond⟩ := h
  have htail : IsTail [] := ⟨[], [], rfl, .inl rfl, [], [], rfl, .inl rfl, .inl rfl⟩
  exact ⟨first, second, rfl, hfirst, second, [], (List.append_nil _).symm, hsecond, htail⟩

theorem IsRelease.exists_line {version : List Char} (h : IsRelease version) :
    ∃ line, IsLine line ∧ line <+: version := by
  obtain ⟨first, _, rfl, hfirst, second, tail, rfl, hsecond, _⟩ := h
  refine ⟨first ++ second, ⟨first, second, rfl, hfirst, hsecond⟩, ⟨tail, ?_⟩⟩
  rw [List.append_assoc]

theorem exists_atStart? {line cs : List Char} (h : IsLine line) (hfront : line <+: cs) :
    ∃ version, atStart? cs = some version := by
  rw [← Option.isSome_iff_exists, Option.isSome_iff_ne_none, atStart?_eq_splits]
  intro hnone
  exact splits_release.not_prefix cs (Option.map_eq_none_iff.mp hnone) line h.isRelease hfront

end ReleaseLines.VersionText
