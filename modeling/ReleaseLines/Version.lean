import ReleaseLines.Numeral

namespace ReleaseLines

/-- A release line: two numbers of any size. -/
structure Version where
  major : Int
  minor : Int
  deriving DecidableEq, Repr

namespace Version

/-- Reads the numbers before and after the first dot; whatever follows a second dot is ignored. -/
def read (text : String) : Except BadValue Version :=
  match Text.pieces (· == '.') (Text.trim text.toList) with
  | major :: minor :: _ => do
    let major ← Numeral.read major
    let minor ← Numeral.read minor
    return ⟨major, minor⟩
  | _ => .error (.notMajorMinor text)

/-- Major numbers first, then minor numbers. -/
def order (a b : Version) : Ordering :=
  (compare a.major b.major).then (compare a.minor b.minor)

instance : LE Version := ⟨fun a b => (a.order b).isLE = true⟩

instance : LT Version := ⟨fun a b => a.order b = .lt⟩

instance (a b : Version) : Decidable (a ≤ b) := inferInstanceAs (Decidable (_ = true))

instance (a b : Version) : Decidable (a < b) := inferInstanceAs (Decidable (_ = _))

/-- How the lines of two texts compare. -/
def compareTexts (a b : String) : Except BadValue Ordering := do
  let left ← read a
  let right ← read b
  return left.order right

/-- Whether two texts name lines with the same major number. -/
def sameMajor (a b : String) : Except BadValue Bool := do
  let left ← read a
  let right ← read b
  return left.major == right.major

/-- Whether two texts name the same line. -/
def sameLine (a b : String) : Except BadValue Bool := do
  let left ← read a
  let right ← read b
  return left == right

/-- Whether a text names a line that is not below the one of `minimum`. This is false where either
of them names no line. -/
def isAtLeast (text minimum : String) : Bool :=
  match read text, read minimum with
  | .ok version, .ok least => least ≤ version
  | _, _ => false

end Version

end ReleaseLines
