import ReleaseLines.Proofs.Interpreter.Release

namespace ReleaseLines.VersionText

open Text

/-- The name of the interpreter in any letter case and blanks after it stand before `rest`, which
begins with two numbers with a dot between. -/
def Mentions (cs rest : List Char) : Prop :=
  ∃ word blanks, cs = word ++ (blanks ++ rest) ∧ Spells "python".toList word ∧ blanks ≠ [] ∧
    (∀ c ∈ blanks, isBlank c = true) ∧ ∃ line, IsLine line ∧ line <+: rest

/-- The first mention in a text stands before `rest`. -/
def IsFirstMention (text rest : List Char) : Prop :=
  ∃ before found, text = before ++ found ∧ Mentions found rest ∧
    ∀ earlier later other, text = earlier ++ later → Mentions later other →
      before.length ≤ earlier.length

/-- Somewhere in a text a version is mentioned. -/
def HasMention (text : List Char) : Prop :=
  ∃ before found rest, text = before ++ found ∧ Mentions found rest

theorem IsLine.takeWhile_isBlank {line rest : List Char} (h : IsLine line) (hfront : line <+: rest) :
    rest.takeWhile isBlank = [] := by
  obtain ⟨first, second, rfl, ⟨hne, hdigits⟩, _⟩ := h
  obtain ⟨c, others, rfl⟩ := List.exists_cons_of_ne_nil hne
  obtain ⟨tail, rfl⟩ := hfront
  have hc : isBlank c = false := isBlank_of_isDecimalDigit (hdigits c (by simp))
  simp [hc]

theorem afterName?_of_mentions {cs rest : List Char} (h : Mentions cs rest) :
    afterName? cs = atStart? rest := by
  obtain ⟨word, blanks, rfl, hword, hne, hblank, line, hline, hfront⟩ := h
  have hafter : afterWord? "python".toList (word ++ (blanks ++ rest)) = some (blanks ++ rest) :=
    afterWord?_eq_some_iff.mpr ⟨word, rfl, hword⟩
  obtain ⟨c, others, rfl⟩ := List.exists_cons_of_ne_nil hne
  have hc : isBlank c = true := hblank c (by simp)
  have hdrop : (c :: others ++ rest).dropWhile isBlank = rest :=
    dropWhile_run hblank (hline.takeWhile_isBlank hfront)
  rw [afterName?, hafter]
  show (if ((c :: others ++ rest).head?.any isBlank) = true
    then atStart? ((c :: others ++ rest).dropWhile isBlank) else none) = atStart? rest
  rw [hdrop, if_pos (by simpa using hc)]

theorem Mentions.exists_atStart? {cs rest : List Char} (h : Mentions cs rest) :
    ∃ version, atStart? rest = some version := by
  obtain ⟨_, _, _, _, _, _, line, hline, hfront⟩ := h
  exact VersionText.exists_atStart? hline hfront

theorem exists_mentions {cs version : List Char} (h : afterName? cs = some version) :
    ∃ rest, Mentions cs rest := by
  obtain ⟨following, hafter, hfound⟩ := Option.bind_eq_some_iff.mp h
  obtain ⟨word, rfl, hword⟩ := afterWord?_eq_some_iff.mp hafter
  split at hfound
  next hhead =>
    have hlongest := atStart?_eq_some_iff.mp hfound
    obtain ⟨line, hline, hfront⟩ := hlongest.holds.exists_line
    refine ⟨following.dropWhile isBlank, word, following.takeWhile isBlank,
      by rw [List.takeWhile_append_dropWhile], hword, ?_, fun c hc => List.mem_takeWhile_imp hc,
      line, hline, hfront.trans hlongest.isPrefix⟩
    cases following with
    | nil => cases hhead
    | cons c others =>
      have hc : isBlank c = true := by simpa using hhead
      simp [hc]
  next => cases hfound

theorem afterName?_eq_none_iff {cs : List Char} :
    afterName? cs = none ↔ ∀ rest, ¬Mentions cs rest := by
  constructor
  · intro h rest hmentions
    obtain ⟨version, hversion⟩ := hmentions.exists_atStart?
    rw [afterName?_of_mentions hmentions, hversion] at h
    cases h
  · intro h
    cases hafter : afterName? cs with
    | none => rfl
    | some version =>
      obtain ⟨rest, hmentions⟩ := exists_mentions hafter
      exact absurd hmentions (h rest)

theorem not_mentions_nil (rest : List Char) : ¬Mentions [] rest := by
  rintro ⟨word, blanks, heq, hword, _⟩
  obtain ⟨rfl, -⟩ := List.nil_eq_append_iff.mp heq
  cases hword

theorem hasMention_cons_iff {c : Char} {others : List Char} :
    HasMention (c :: others) ↔ (∃ rest, Mentions (c :: others) rest) ∨ HasMention others := by
  constructor
  · rintro ⟨before, found, rest, heq, hmentions⟩
    cases before with
    | nil =>
      obtain rfl : c :: others = found := heq
      exact .inl ⟨rest, hmentions⟩
    | cons d tail =>
      obtain ⟨-, rfl⟩ := List.cons.inj heq
      exact .inr ⟨tail, found, rest, rfl, hmentions⟩
  · rintro (⟨rest, hmentions⟩ | ⟨before, found, rest, rfl, hmentions⟩)
    · exact ⟨[], c :: others, rest, rfl, hmentions⟩
    · exact ⟨c :: before, found, rest, rfl, hmentions⟩

/-- What is found in a text is the longest version after its first mention. -/
theorem exists_of_search? {text version : List Char} (h : search? text = some version) :
    ∃ rest, IsFirstMention text rest ∧ IsLongest IsRelease version rest := by
  induction text with
  | nil => cases h
  | cons c others ih =>
    rw [search?] at h
    split at h
    next first hfirst =>
      obtain rfl := Option.some.inj h
      obtain ⟨rest, hmentions⟩ := exists_mentions hfirst
      rw [afterName?_of_mentions hmentions] at hfirst
      exact ⟨rest, ⟨[], c :: others, rfl, hmentions, fun _ _ _ _ _ => Nat.zero_le _⟩,
        atStart?_eq_some_iff.mp hfirst⟩
    next hnone =>
      obtain ⟨rest, ⟨before, found, rfl, hmentions, hfirst⟩, hlongest⟩ := ih h
      refine ⟨rest, ⟨c :: before, found, rfl, hmentions, ?_⟩, hlongest⟩
      intro earlier later other heq hother
      cases earlier with
      | nil =>
        obtain rfl : c :: (before ++ found) = later := heq
        exact absurd hother (afterName?_eq_none_iff.mp hnone other)
      | cons d tail =>
        obtain ⟨-, heq⟩ := List.cons.inj heq
        exact Nat.succ_le_succ (hfirst tail later other heq hother)

theorem search?_eq_none_iff {text : List Char} : search? text = none ↔ ¬HasMention text := by
  induction text with
  | nil =>
    refine iff_of_true rfl ?_
    rintro ⟨before, found, rest, heq, hmentions⟩
    obtain ⟨rfl, rfl⟩ := List.nil_eq_append_iff.mp heq
    exact not_mentions_nil rest hmentions
  | cons c others ih =>
    rw [search?, hasMention_cons_iff, not_or, ← ih, not_exists, ← afterName?_eq_none_iff]
    cases afterName? (c :: others) with
    | none => simp
    | some version => simp

theorem exists_of_spells_python {word : List Char} (h : Spells "python".toList word) :
    ∃ first tail, word = first :: tail ∧ first.toLower = 'p' ∧ Spells ['y', 't', 'h', 'o', 'n'] tail := by
  have hletters : "python".toList = ['p', 'y', 't', 'h', 'o', 'n'] := by decide
  rw [hletters] at h
  cases word with
  | nil => cases h
  | cons first tail => exact ⟨first, tail, rfl, (List.cons.inj h).1, (List.cons.inj h).2⟩

/-- No character with small `p` for its lower case stands in the name but the first one, nor in the
blanks after it. -/
theorem toLower_ne_of_mem_tail {c : Char} {word blanks rest : List Char}
    (hword : Spells "python".toList word) (hblank : ∀ d ∈ blanks, isBlank d = true)
    (heq : c :: rest = word ++ blanks) {d : Char} (hd : d ∈ rest) : d.toLower ≠ 'p' := by
  obtain ⟨first, tail, rfl, _, htail⟩ := exists_of_spells_python hword
  obtain ⟨-, rfl⟩ := List.cons.inj heq
  intro hlower
  rcases List.mem_append.mp hd with hd | hd
  · have hmem : d.toLower ∈ ['y', 't', 'h', 'o', 'n'] := htail ▸ List.mem_map_of_mem hd
    rw [hlower] at hmem
    exact absurd hmem (by decide)
  · have hletter := isBlank_of_letter (bounds_of_toLower hlower (by decide) (by decide))
    rw [hblank d hd] at hletter
    cases hletter

theorem HasMention.exists_toLower_eq {text : List Char} (h : HasMention text) :
    ∃ c ∈ text, c.toLower = 'p' := by
  obtain ⟨before, found, rest, rfl, word, blanks, rfl, hword, _⟩ := h
  obtain ⟨first, tail, rfl, hfirst, _⟩ := exists_of_spells_python hword
  exact ⟨first, by simp, hfirst⟩

theorem prefix_append_newline_iff {text cs more : List Char} (h : ∀ c ∈ text, isBlank c = false) :
    text <+: cs ++ '\n' :: more ↔ text <+: cs := by
  constructor
  · intro hfront
    rcases List.prefix_or_prefix_of_prefix hfront (List.prefix_append cs _) with hle | hle
    · exact hle
    · obtain ⟨others, rfl⟩ := hle
      cases others with
      | nil => rw [List.append_nil]
      | cons c tail =>
        obtain ⟨rfl, -⟩ := List.cons_prefix_cons.mp ((List.prefix_append_right_inj cs).mp hfront)
        exact absurd (h '\n' (by simp)) (by decide)
  · intro hfront
    exact hfront.trans (List.prefix_append _ _)

theorem isLongest_append_newline {version cs : List Char} (h : IsLongest IsRelease version cs)
    (more : List Char) : IsLongest IsRelease version (cs ++ '\n' :: more) where
  holds := h.holds
  isPrefix := h.isPrefix.trans (List.prefix_append _ _)
  greatest other hother hfront :=
    h.greatest other hother ((prefix_append_newline_iff fun _ => hother.isBlank_of_mem).mp hfront)

/-- A mention reaches over a line feed only if no other letter `p` stands before that. -/
theorem mentions_or_of_append_newline {c : Char} {others more rest : List Char}
    (h : Mentions (c :: others ++ '\n' :: more) rest) :
    (∃ rest, Mentions (c :: others) rest) ∨ ∀ d ∈ others, d.toLower ≠ 'p' := by
  obtain ⟨word, blanks, heq, hword, hne, hblank, line, hline, hfront⟩ := h
  rcases List.append_eq_append_iff.mp heq with ⟨x, hx, hnewline⟩ | ⟨x, hx, hblanks⟩
  · right
    cases x with
    | nil =>
      have hall : c :: others = word ++ [] := by rw [hx, List.append_nil, List.append_nil]
      exact fun d => toLower_ne_of_mem_tail hword (by simp) hall
    | cons e tail =>
      -- the line feed would be one of the letters of the name
      obtain ⟨rfl, -⟩ := List.cons.inj hnewline
      have hmem : '\n'.toLower ∈ "python".toList := hword ▸ List.mem_map_of_mem (by simp [hx])
      exact absurd hmem (by decide)
  · rcases List.append_eq_append_iff.mp hblanks with ⟨y, rfl, rfl⟩ | ⟨y, rfl, hnewline⟩
    · have hnonblank : ∀ d ∈ line, isBlank d = false := fun d => hline.isRelease.isBlank_of_mem
      exact .inl ⟨y, word, blanks, hx, hword, hne, hblank, line, hline,
        (prefix_append_newline_iff hnonblank).mp hfront⟩
    · right
      have hbefore : ∀ d ∈ x, isBlank d = true := fun d hd => hblank d (List.mem_append_left y hd)
      exact fun d => toLower_ne_of_mem_tail hword hbefore hx

/-- What is found in a text does not depend on what stands after a line feed. -/
theorem search?_append_newline {text version : List Char} (h : search? text = some version)
    (more : List Char) : search? (text ++ '\n' :: more) = some version := by
  induction text with
  | nil => cases h
  | cons c others ih =>
    rw [search?] at h
    rw [List.cons_append, search?]
    split at h
    next first hfirst =>
      obtain rfl := Option.some.inj h
      obtain ⟨rest, hmentions⟩ := exists_mentions hfirst
      have hafter : Mentions (c :: others ++ '\n' :: more) (rest ++ '\n' :: more) := by
        obtain ⟨word, blanks, heq, hword, hne, hblank, line, hline, hfront⟩ := hmentions
        exact ⟨word, blanks, by rw [heq]; simp, hword, hne, hblank, line, hline,
          hfront.trans (List.prefix_append _ _)⟩
      rw [afterName?_of_mentions hmentions] at hfirst
      have hlongest := isLongest_append_newline (atStart?_eq_some_iff.mp hfirst) more
      rw [← List.cons_append, afterName?_of_mentions hafter, atStart?_eq_some_iff.mpr hlongest]
    next hnone =>
      have hmention : HasMention others := by
        by_contra hmissing
        rw [search?_eq_none_iff.mpr hmissing] at h
        cases h
      -- a mention that begins here and reaches over the line feed leaves no room for the later one
      have hsame : afterName? (c :: (others ++ '\n' :: more)) = none := by
        rw [← List.cons_append, afterName?_eq_none_iff]
        intro rest hmentions
        rcases mentions_or_of_append_newline hmentions with ⟨other, hother⟩ | hletters
        · exact afterName?_eq_none_iff.mp hnone other hother
        · obtain ⟨d, hd, hlower⟩ := hmention.exists_toLower_eq
          exact hletters d hd hlower
      rw [hsame]
      exact ih h

end ReleaseLines.VersionText
