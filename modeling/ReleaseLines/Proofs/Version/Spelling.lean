import ReleaseLines.Proofs.Numeral.DigitRun
import ReleaseLines.Proofs.Text.Trim
import ReleaseLines.Proofs.Version.Order

namespace ReleaseLines

/-- A version written out: two numbers, and a patch that says nothing about the line. -/
structure Spelling where
  major : DigitRun
  minor : DigitRun
  patch : Option DigitRun

namespace Spelling

def patchChars : Option DigitRun → List Char
  | none => []
  | some run => '.' :: run.chars

def chars (s : Spelling) : List Char :=
  s.major.chars ++ '.' :: (s.minor.chars ++ patchChars s.patch)

def text (s : Spelling) : String := String.ofList s.chars

def line (s : Spelling) : ℕ ×ₗ ℕ := toLex (s.major.value, s.minor.value)

/-- The shortest spelling of a line. -/
def ofLine (line : ℕ ×ₗ ℕ) : Spelling := ⟨.ofNat (ofLex line).1, .ofNat (ofLex line).2, none⟩

def IsReadable (s : Spelling) : Prop :=
  s.major.chars.length ≤ Numeral.digitLimit ∧ s.minor.chars.length ≤ Numeral.digitLimit

theorem line_ofLine (line : ℕ ×ₗ ℕ) : (ofLine line).line = line := by
  simp only [ofLine, Spelling.line, DigitRun.value_ofNat]
  rfl

theorem text_ofLine (line : ℕ ×ₗ ℕ) :
    (ofLine line).text =
      Numeral.natText (ofLex line).1 ++ "." ++ Numeral.natText (ofLex line).2 := by
  apply String.toList_injective
  simp [text, chars, ofLine, patchChars, DigitRun.ofNat, Numeral.natText]

theorem mem_patchChars {patch : Option DigitRun} {c : Char} (h : c ∈ patchChars patch) :
    Text.isDigit c = true ∨ c = '.' := by
  cases patch with
  | none => cases h
  | some run =>
    rcases List.mem_cons.mp h with rfl | h
    · exact .inr rfl
    · exact .inl (run.isDigit_of_mem c h)

theorem mem_chars {s : Spelling} {c : Char} (h : c ∈ s.chars) : Text.isDigit c = true ∨ c = '.' := by
  simp only [chars, List.mem_append, List.mem_cons] at h
  rcases h with h | rfl | h | h
  · exact .inl (s.major.isDigit_of_mem c h)
  · exact .inr rfl
  · exact .inl (s.minor.isDigit_of_mem c h)
  · exact mem_patchChars h

theorem isDigit_of_head? {s : Spelling} {c : Char} (h : s.chars.head? = some c) :
    Text.isDigit c = true := by
  obtain ⟨d, rest, hd⟩ := List.exists_cons_of_ne_nil s.major.ne_nil
  have hc : d = c := by simpa [chars, hd] using h
  exact hc ▸ s.major.head_isDigit hd

theorem isDigit_of_getLast? {s : Spelling} {c : Char} (h : s.chars.getLast? = some c) :
    Text.isDigit c = true := by
  have last_run (before : List Char) (run : DigitRun)
      (hlast : (before ++ run.chars).getLast? = some c) : Text.isDigit c = true := by
    rw [List.getLast?_append_of_ne_nil _ run.ne_nil] at hlast
    exact run.isDigit_of_mem c (List.mem_of_getLast? hlast)
  obtain ⟨major, minor, patch⟩ := s
  cases patch with
  | none => exact last_run (major.chars ++ ['.']) minor (by simpa [chars, patchChars] using h)
  | some run =>
    exact last_run (major.chars ++ '.' :: (minor.chars ++ ['.'])) run
      (by simpa [chars, patchChars] using h)

theorem trim_chars (s : Spelling) : Text.trim s.chars = s.chars :=
  Text.trim_eq_self (fun _ h => Text.isBlank_of_isDigit (isDigit_of_head? h))
    fun _ h => Text.isBlank_of_isDigit (isDigit_of_getLast? h)

theorem pieces_run (run : DigitRun) : Text.pieces (· == '.') run.chars = [run.chars] :=
  Text.pieces_eq_singleton fun c hc => by
    simpa using Text.ne_of_isDigit (d := '.') (run.isDigit_of_mem c hc) rfl

theorem pieces_chars (s : Spelling) :
    ∃ others, Text.pieces (· == '.') s.chars = s.major.chars :: s.minor.chars :: others := by
  obtain ⟨major, minor, patch⟩ := s
  cases patch with
  | none =>
    refine ⟨[], ?_⟩
    rw [chars, patchChars, List.append_nil, Text.pieces_append_separator _ _ (by rfl),
      pieces_run, pieces_run, List.singleton_append]
  | some run =>
    refine ⟨[run.chars], ?_⟩
    rw [chars, patchChars, Text.pieces_append_separator _ _ (by rfl),
      Text.pieces_append_separator _ _ (by rfl), pieces_run, pieces_run, pieces_run]
    rfl

/-- A readable spelling is read as the line it spells, whatever its patch. -/
theorem read_text {s : Spelling} (h : s.IsReadable) :
    Version.read s.text = .ok (Version.ofPair s.line) := by
  obtain ⟨others, hp⟩ := s.pieces_chars
  rw [Version.read, text, String.toList_ofList, s.trim_chars, hp]
  simp only [DigitRun.read_chars_of_le h.1, DigitRun.read_chars_of_le h.2]
  rfl

theorem isReadable_ofLine_iff {line : ℕ ×ₗ ℕ} :
    (ofLine line).IsReadable ↔
      (ofLex line).1 < Numeral.powerOfTen Numeral.digitLimit ∧
        (ofLex line).2 < Numeral.powerOfTen Numeral.digitLimit :=
  and_congr DigitRun.length_ofNat_le_iff DigitRun.length_ofNat_le_iff

theorem IsReadable.ofLine_line {s : Spelling} (h : s.IsReadable) : (ofLine s.line).IsReadable :=
  isReadable_ofLine_iff.mpr ⟨DigitRun.value_lt_limit h.1, DigitRun.value_lt_limit h.2⟩

end Spelling

end ReleaseLines
