import ReleaseLines.Text.Split

namespace ReleaseLines.Markup

/-- A character that can begin a tag. -/
def isTagStart (c : Char) : Bool := ('a' ≤ c && c ≤ 'z') || ['#', '/', '@'].contains c

/-- What stands in front of the bracket that closes a tag, and what follows it. A second opening
bracket may not come first. -/
def closeTag? : List Char → Option (List Char × List Char)
  | [] => none
  | c :: rest =>
    if c == ']' then some ([], rest)
    else if c == '[' then none
    else (closeTag? rest).map fun found => (c :: found.1, found.2)

/-- A tag at the start of a text, brackets included, and what follows it. -/
def tag? : List Char → Option (List Char × List Char)
  | '[' :: c :: rest =>
    if isTagStart c then
      (closeTag? rest).map fun found => ('[' :: c :: (found.1 ++ [']']), found.2)
    else none
  | _ => none

theorem closeTag?_length {cs inner rest : List Char} (h : closeTag? cs = some (inner, rest)) :
    rest.length < cs.length := by
  induction cs generalizing inner with
  | nil => simp [closeTag?] at h
  | cons c tail ih =>
    unfold closeTag? at h
    split at h
    · simp only [Option.some.injEq, Prod.mk.injEq] at h
      obtain ⟨_, rfl⟩ := h
      simp
    · split at h
      · cases h
      · obtain ⟨⟨inner', rest'⟩, h', heq⟩ := Option.map_eq_some_iff.mp h
        simp only [Prod.mk.injEq] at heq
        obtain ⟨_, rfl⟩ := heq
        have := ih h'
        simp only [List.length_cons]
        omega

theorem tag?_length {cs tag rest : List Char} (h : tag? cs = some (tag, rest)) :
    rest.length < cs.length := by
  unfold tag? at h
  split at h
  next c tail =>
    split at h
    · obtain ⟨⟨inner, rest'⟩, h', heq⟩ := Option.map_eq_some_iff.mp h
      simp only [Prod.mk.injEq] at heq
      obtain ⟨_, rfl⟩ := heq
      have := closeTag?_length h'
      simp only [List.length_cons]
      omega
    · cases h
  next => cases h

/-- Puts a backslash before every tag and doubles the backslashes in front of it. `run` counts the
backslashes read last. -/
def escapeTags (run : Nat) (cs : List Char) : List Char :=
  match cs with
  | [] => List.replicate run '\\'
  | c :: rest =>
    if c == '\\' then escapeTags (run + 1) rest
    else
      match _ : tag? (c :: rest) with
      | some (tag, tail) => List.replicate (2 * run + 1) '\\' ++ tag ++ escapeTags 0 tail
      | none => List.replicate run '\\' ++ c :: escapeTags 0 rest
termination_by cs.length
decreasing_by
  · simp
  · exact tag?_length (by assumption)
  · simp

/-- Doubles a single backslash at the end. -/
def closeEnd (cs : List Char) : List Char :=
  match cs.reverse with
  | '\\' :: c :: _ => if c == '\\' then cs else cs ++ ['\\']
  | ['\\'] => cs ++ ['\\']
  | _ => cs

def escapeChars (cs : List Char) : List Char := closeEnd (escapeTags 0 cs)

/-- The markup that shows a text as it is. -/
def escape (s : String) : String := String.ofList (escapeChars s.toList)

/-- A text between the tags of a style. -/
def styled (style text : String) : String := "[" ++ style ++ "]" ++ text ++ "[/" ++ style ++ "]"

end ReleaseLines.Markup
