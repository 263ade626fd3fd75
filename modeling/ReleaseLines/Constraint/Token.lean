import ReleaseLines.Numeral

namespace ReleaseLines.Token

/-- Reads digits, a dot and digits: both runs of digits and what follows them. -/
def majorMinor? (cs : List Char) : Option (List Char × List Char × List Char) :=
  let major := cs.takeWhile Text.isDigit
  match cs.dropWhile Text.isDigit with
  | '.' :: rest =>
    let minor := rest.takeWhile Text.isDigit
    if major.isEmpty || minor.isEmpty then none
    else some (major, minor, rest.dropWhile Text.isDigit)
  | _ => none

/-- Nothing, or a dot and digits. -/
def isPatch : List Char → Bool
  | [] => true
  | '.' :: rest => !rest.isEmpty && rest.all Text.isDigit
  | _ => false

/-- A version with an optional patch after optional plain blanks: its major and minor digits. -/
def patched? (cs : List Char) : Option (List Char × List Char) :=
  match majorMinor? (cs.dropWhile Text.isPlainBlank) with
  | some (major, minor, rest) => if isPatch rest then some (major, minor) else none
  | none => none

/-- A version that ends in `.*` after optional plain blanks: its major and minor digits. -/
def wildcard? (cs : List Char) : Option (List Char × List Char) :=
  match majorMinor? (cs.dropWhile Text.isPlainBlank) with
  | some (major, minor, ['.', '*']) => some (major, minor)
  | _ => none

/-- What a token says, where it has one of the known forms. Digits are kept as written. -/
inductive Form
  /-- A comparison that stands for itself. -/
  | plain (operator major minor : List Char)
  /-- From a version up to the next major number. -/
  | majorRange (major minor : List Char)
  /-- From a version up to the next minor number. -/
  | minorRange (major minor : List Char)
  deriving DecidableEq, Repr

/-- A comparison with the given operator, if a version follows. -/
def plain? (operator cs : List Char) : Option Form :=
  (patched? cs).map fun version => .plain operator version.1 version.2

/-- The form of a token without blanks around it. -/
def form? : List Char → Option Form
  | '!' :: '=' :: rest => plain? ['!', '='] rest
  | '^' :: rest => (patched? rest).map fun version => .majorRange version.1 version.2
  | '~' :: '=' :: rest => (patched? rest).map fun version => .minorRange version.1 version.2
  | '=' :: '=' :: rest =>
    match wildcard? rest with
    | some version => some (.minorRange version.1 version.2)
    | none => plain? ['=', '='] rest
  | '>' :: '=' :: rest => plain? ['>', '='] rest
  | '<' :: '=' :: rest => plain? ['<', '='] rest
  | '>' :: rest => plain? ['>'] rest
  | '<' :: rest => plain? ['<'] rest
  | _ => none

/-- Two comparisons: at least one version, and below another. -/
def range (major minor upperMajor upperMinor : Int) : Except BadValue (List Char) := do
  let major ← Numeral.write major
  let minor ← Numeral.write minor
  let upperMajor ← Numeral.write upperMajor
  let upperMinor ← Numeral.write upperMinor
  return (">=" ++ major ++ "." ++ minor ++ ",<" ++ upperMajor ++ "." ++ upperMinor).toList

/-- A form as plain comparisons. Ranges are counted out, so their numbers must not be too long. -/
def Form.expand : Form → Except BadValue (List Char)
  | plain operator major minor => .ok (operator ++ major ++ '.' :: minor)
  | majorRange major minor => do
    let major ← Numeral.read major
    let minor ← Numeral.read minor
    range major minor (major + 1) 0
  | minorRange major minor => do
    let major ← Numeral.read major
    let minor ← Numeral.read minor
    range major minor major (minor + 1)

/-- A character of which operators are made. -/
def isOperatorChar (c : Char) : Bool := ['<', '>', '=', '!', '~', '^'].contains c

/-- A version with a patch at the start of a text, after optional plain blanks: the version without
the patch, and what follows the patch. Neither a digit nor a dot may follow. -/
def cutPatch? (cs : List Char) : Option (List Char × List Char) :=
  match majorMinor? (cs.dropWhile Text.isPlainBlank) with
  | some (major, minor, '.' :: rest) =>
    let tail := rest.dropWhile Text.isDigit
    if (rest.takeWhile Text.isDigit).isEmpty || tail.head? == some '.' then none
    else some (major ++ '.' :: minor, tail)
  | _ => none

theorem length_dropWhile_le (p : Char → Bool) (cs : List Char) :
    (cs.dropWhile p).length ≤ cs.length := by
  induction cs with
  | nil => simp
  | cons c rest ih =>
    rw [List.dropWhile_cons]
    split
    · simp only [List.length_cons]; omega
    · exact Nat.le_refl _

theorem majorMinor?_length {cs major minor rest : List Char}
    (h : majorMinor? cs = some (major, minor, rest)) : rest.length ≤ cs.length := by
  unfold majorMinor? at h
  simp only at h
  split at h
  next tail heq =>
    split at h
    · cases h
    · simp only [Option.some.injEq, Prod.mk.injEq] at h
      obtain ⟨_, _, rfl⟩ := h
      have h₁ := length_dropWhile_le Text.isDigit tail
      have h₂ := length_dropWhile_le Text.isDigit cs
      rw [heq, List.length_cons] at h₂
      omega
  next => cases h

theorem cutPatch?_length {cs version tail : List Char}
    (h : cutPatch? cs = some (version, tail)) : tail.length ≤ cs.length := by
  unfold cutPatch? at h
  split at h
  next major minor rest heq =>
    simp only at h
    split at h
    · cases h
    · simp only [Option.some.injEq, Prod.mk.injEq] at h
      obtain ⟨_, rfl⟩ := h
      have h₁ := majorMinor?_length heq
      have h₂ := length_dropWhile_le Text.isPlainBlank cs
      have h₃ := length_dropWhile_le Text.isDigit rest
      simp only [List.length_cons] at h₁
      omega
  next => cases h

theorem dropWhile_isOperatorChar_length_lt {c : Char} {rest : List Char}
    (h : isOperatorChar c = true) :
    ((c :: rest).dropWhile isOperatorChar).length < (c :: rest).length := by
  rw [List.dropWhile_cons, if_pos h]
  have h₁ := length_dropWhile_le isOperatorChar rest
  simp only [List.length_cons]
  omega

/-- Drops the patch of every version that follows a run of operator characters, and the blanks
between the two. All else stays as it is. -/
def stripPatches (cs : List Char) : List Char :=
  match cs with
  | [] => []
  | c :: rest =>
    if isOperatorChar c then
      let run := (c :: rest).takeWhile isOperatorChar
      match _ : cutPatch? ((c :: rest).dropWhile isOperatorChar) with
      | some (version, tail) => run ++ version ++ stripPatches tail
      | none => run ++ stripPatches ((c :: rest).dropWhile isOperatorChar)
    else c :: stripPatches rest
termination_by cs.length
decreasing_by
  · have h₁ := cutPatch?_length (by assumption)
    have h₂ : ((c :: rest).dropWhile isOperatorChar).length < (c :: rest).length :=
      dropWhile_isOperatorChar_length_lt (by assumption)
    omega
  · exact dropWhile_isOperatorChar_length_lt (by assumption)
  · simp

/-- A token in plain comparisons. A token of no known form only loses its patches. -/
def normalizeChars (token : List Char) : Except BadValue (List Char) :=
  let cs := Text.trim token
  match form? cs with
  | some form => form.expand
  | none => .ok (stripPatches cs)

/-- A token in plain comparisons. A token of no known form only loses its patches. -/
def normalize (token : String) : Except BadValue String :=
  (normalizeChars token.toList).map String.ofList

end ReleaseLines.Token
