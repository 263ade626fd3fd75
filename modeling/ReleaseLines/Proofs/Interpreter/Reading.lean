import ReleaseLines.Interpreter.Check
import ReleaseLines.Proofs.Act.Keeps
import ReleaseLines.Proofs.Interpreter.Mention
import ReleaseLines.Proofs.Text.Lines
import ReleaseLines.Proofs.Text.Trim

namespace ReleaseLines

namespace VersionText

open Text

/-- The first line of a text that is not blank, without the blanks around it. -/
def IsFirstLine (text cs : List Char) : Prop :=
  ∃ above line below, lines cs = above ++ line :: below ∧
    (∀ other ∈ above, ∀ c ∈ other, isBlank c = true) ∧ (∃ c ∈ line, isBlank c = false) ∧
    text = trim line

/-- A part of a text that is worth being shown: not empty, on one line, without blanks around it. -/
structure IsExtract (text cs : List Char) : Prop where
  ne_nil : text ≠ []
  isInfix : text <:+: cs
  head : ∀ c, text.head? = some c → isBlank c = false
  last : ∀ c, text.getLast? = some c → isBlank c = false
  unbroken : ∀ c ∈ text, isLineBreak c = false

theorem exists_of_firstLine? {cs text : List Char} (h : firstLine? cs = some text) :
    IsFirstLine text cs := by
  obtain ⟨htext, above, below, heq, habove⟩ := List.find?_eq_some_iff_append.mp h
  obtain ⟨before, others, hlines, rfl, hothers⟩ := List.map_eq_append_iff.mp heq
  obtain ⟨line, after, rfl, rfl, rfl⟩ := List.map_eq_cons_iff.mp hothers
  refine ⟨before, line, after, hlines, fun other hother => ?_, ?_, rfl⟩
  · have hnil := habove (trim other) (List.mem_map_of_mem hother)
    exact trim_eq_nil_iff.mp (by simpa using hnil)
  · by_contra hblank
    have hnil : trim line = [] := trim_eq_nil_iff.mpr fun c hc => by
      by_contra hother
      exact hblank ⟨c, hc, by simpa using hother⟩
    simp [hnil] at htext

theorem firstLine?_eq_none_iff {cs : List Char} :
    firstLine? cs = none ↔ ∀ c ∈ cs, isBlank c = true := by
  have hnone : firstLine? cs = none ↔ ∀ line ∈ lines cs, ∀ c ∈ line, isBlank c = true := by
    simp [firstLine?, trim_eq_nil_iff]
  rw [hnone]
  constructor
  · intro h c hc
    cases hbreak : isLineBreak c with
    | true => exact isBlank_of_isLineBreak hbreak
    | false =>
      obtain ⟨line, hline, hmem⟩ := exists_piece_of_mem hc hbreak
      exact h line hline c hmem
  · intro h line hline c hc
    exact h c ((infix_of_mem_pieces hline).subset hc)

theorem IsFirstLine.isExtract {text cs : List Char} (h : IsFirstLine text cs) :
    IsExtract text cs := by
  obtain ⟨above, line, below, hlines, _, ⟨c, hc, hblank⟩, rfl⟩ := h
  have hline : line ∈ pieces isLineBreak cs := by
    show line ∈ lines cs
    simp [hlines]
  refine ⟨fun hnil => ?_, (Text.trim_infix line).trans (infix_of_mem_pieces hline),
    fun _ => head?_trim, fun _ => getLast?_trim, fun d hd => ?_⟩
  · rw [trim_eq_nil_iff.mp hnil c hc] at hblank
    cases hblank
  · exact eq_false_of_mem_pieces hline ((Text.trim_infix line).subset hd)

theorem isExtract_of_release {version cs rest : List Char} (h : IsFirstMention cs rest)
    (hlongest : IsLongest IsRelease version rest) : IsExtract version cs := by
  obtain ⟨before, _, rfl, ⟨word, blanks, rfl, _⟩, _⟩ := h
  have hblank : ∀ c ∈ version, isBlank c = false := fun c => hlongest.holds.isBlank_of_mem
  obtain ⟨tail, rfl⟩ := hlongest.isPrefix
  refine ⟨hlongest.holds.ne_nil, ⟨before ++ word ++ blanks, tail, by simp⟩,
    fun c hc => hblank c (List.mem_of_mem_head? hc), fun c hc => hblank c (List.mem_of_mem_getLast? hc),
    fun c hc => ?_⟩
  by_contra hbreak
  rw [Bool.not_eq_false] at hbreak
  have hcontra := hblank c hc
  rw [isBlank_of_isLineBreak hbreak] at hcontra
  cases hcontra

theorem isBlankText_eq_true_iff {text : String} :
    isBlankText text = true ↔ ∀ c ∈ text.toList, isBlank c = true :=
  List.all_eq_true

/-- What is read in the output of an interpreter. -/
def found? (output : String) : Option String :=
  (search? output.toList <|> firstLine? output.toList).map String.ofList

theorem found?_of_search? {output : String} {version : List Char}
    (h : search? output.toList = some version) : found? output = some (String.ofList version) := by
  rw [found?, h]
  rfl

/-- Only in blanks there is nothing to be read. -/
theorem found?_eq_none_iff {output : String} : found? output = none ↔ isBlankText output = true := by
  rw [found?, Option.map_eq_none_iff, isBlankText_eq_true_iff, ← firstLine?_eq_none_iff]
  cases hsearch : search? output.toList with
  | none => rfl
  | some version =>
    obtain ⟨rest, hfirst, hlongest⟩ := exists_of_search? hsearch
    have hextract := isExtract_of_release hfirst hlongest
    refine iff_of_false nofun fun hnone => ?_
    obtain ⟨c, others, rfl⟩ := List.exists_cons_of_ne_nil hextract.ne_nil
    have hblank := firstLine?_eq_none_iff.mp hnone c (hextract.isInfix.subset (by simp))
    rw [hextract.head c rfl] at hblank
    cases hblank

theorem found?_cases {output text : String} (h : found? output = some text) :
    (∃ rest, IsFirstMention output.toList rest ∧ IsLongest IsRelease text.toList rest) ∨
      ¬HasMention output.toList ∧ IsFirstLine text.toList output.toList := by
  obtain ⟨chars, hchars, rfl⟩ := Option.map_eq_some_iff.mp h
  rw [String.toList_ofList]
  cases hsearch : search? output.toList with
  | none =>
    rw [hsearch] at hchars
    exact .inr ⟨search?_eq_none_iff.mp hsearch, exists_of_firstLine? hchars⟩
  | some version =>
    rw [hsearch] at hchars
    obtain rfl : version = chars := Option.some.inj hchars
    exact .inl (exists_of_search? hsearch)

/-- A mention on its own lines is all that counts. -/
theorem found?_append_newline {output : String} (h : HasMention output.toList)
    (complaints : String) : found? (output ++ "\n" ++ complaints) = found? output := by
  cases hsearch : search? output.toList with
  | none => exact absurd h (search?_eq_none_iff.mp hsearch)
  | some version =>
    have hlonger : search? (output ++ "\n" ++ complaints).toList = some version := by
      have hchars : (output ++ "\n" ++ complaints).toList =
          output.toList ++ '\n' :: complaints.toList := by simp
      rw [hchars]
      exact search?_append_newline hsearch complaints.toList
    rw [found?_of_search? hsearch, found?_of_search? hlonger]

end VersionText

namespace Interpreter

open VersionText

variable {σ : Type}

theorem readOutput_result (output : String) (state : σ) :
    (readOutput output state).result = .ok (found? output) := by
  rw [readOutput, found?]
  cases hsearch : search? output.toList with
  | some version => rfl
  | none =>
    cases hline : firstLine? output.toList with
    | some line => rfl
    | none => rfl

theorem askVersion_finished {machine : Machine} {command output complaints : String}
    {arguments : List String}
    (h : machine.launch (command :: arguments) = .finished output complaints) (state : σ) :
    (askVersion machine command arguments state).result =
      .ok (found? (output ++ "\n" ++ complaints)) := by
  rw [askVersion, Act.result_bind rfl, h]
  exact readOutput_result _ _

/-- From the output of an interpreter one line of text is read, unless there are only blanks in it:
the longest version after the first mention of one, or without a mention the first line. What the
interpreter prints elsewhere is read after that, and does not count where a version is mentioned. -/
theorem extracts_version (output : String) (state : σ) :
    (∃ found, (readOutput output state).result = .ok found ∧
      (found = none ↔ Text.isBlankText output = true) ∧
      ∀ text, found = some text →
        IsExtract text.toList output.toList ∧
        ((∃ rest, IsFirstMention output.toList rest ∧
            Text.IsLongest IsRelease text.toList rest) ∨
          ¬HasMention output.toList ∧ IsFirstLine text.toList output.toList)) ∧
    ∀ machine command arguments complaints,
      machine.launch (command :: arguments) = .finished output complaints →
      (askVersion machine command arguments state).result =
        (readOutput (output ++ "\n" ++ complaints) state).result ∧
      (HasMention output.toList →
        (askVersion machine command arguments state).result =
          (readOutput output state).result) := by
  refine ⟨⟨found? output, readOutput_result output state, found?_eq_none_iff, ?_⟩, ?_⟩
  · intro text htext
    have hcases := found?_cases htext
    refine ⟨?_, hcases⟩
    rcases hcases with ⟨rest, hfirst, hlongest⟩ | ⟨_, hline⟩
    · exact isExtract_of_release hfirst hlongest
    · exact hline.isExtract
  · intro machine command arguments complaints hlaunch
    rw [askVersion_finished hlaunch, readOutput_result, readOutput_result]
    exact ⟨rfl, fun hmention => by rw [found?_append_newline hmention]⟩

/-- A machine on which every command prints the same. -/
def printing (output complaints : String) : Machine where
  locate := some
  launch _ := .finished output complaints

theorem hasMention_of_release : HasMention "Python 3.14.0rc2 (main)".toList :=
  ⟨[], "Python 3.14.0rc2 (main)".toList, "3.14.0rc2 (main)".toList, rfl, "Python".toList, [' '],
    by decide, by unfold Spells; decide, by decide, List.all_eq_true.mp rfl, "3.14".toList,
    ⟨['3'], ".14".toList, by decide, ⟨by decide, List.all_eq_true.mp rfl⟩, "14".toList, by decide,
      ⟨by decide, List.all_eq_true.mp rfl⟩⟩, ⟨".0rc2 (main)".toList, by decide⟩⟩

theorem extracts_version_of_release :
    ∃ version rest, IsFirstMention "Python 3.14.0rc2 (main)".toList rest ∧
      Text.IsLongest IsRelease version.toList rest ∧
      (askVersion (printing "Python 3.14.0rc2 (main)" "Python 2.7.18") "python3.14" ["--version"]
        ()).result = .ok (some version) := by
  obtain ⟨⟨found, hfound, hblank, hcases⟩, hask⟩ := extracts_version "Python 3.14.0rc2 (main)" ()
  cases found with
  | none => exact absurd (hblank.mp rfl) (by decide)
  | some version =>
    have hresult := (hask (printing "Python 3.14.0rc2 (main)" "Python 2.7.18") "python3.14"
      ["--version"] "Python 2.7.18" rfl).2 hasMention_of_release
    rcases (hcases version rfl).2 with ⟨rest, hfirst, hlongest⟩ | ⟨hnone, _⟩
    · exact ⟨version, rest, hfirst, hlongest, hresult.trans hfound⟩
    · exact absurd hasMention_of_release hnone

end Interpreter

end ReleaseLines
