import ReleaseLines.Calendar.Date

namespace ReleaseLines.Date

/-- The value of a digit from `low` to `high`. -/
def digitFrom (low high : Char) (c : Char) : Option Nat :=
  if low ≤ c && c ≤ high then some (c.toNat - 48) else none

/-- Reads four digits of any script. -/
def readYear : List Char → Option (Nat × List Char)
  | a :: b :: c :: d :: rest => do
    let digits ← [a, b, c, d].mapM Text.digitValue?
    return (Numeral.valueOf digits, rest)
  | _ => none

/-- Reads a month as two digits, or as one that is not zero. -/
def readMonth : List Char → Option (Nat × List Char)
  | '1' :: c :: rest =>
    match digitFrom '0' '2' c with
    | some units => some (10 + units, rest)
    | none => some (1, c :: rest)
  | '0' :: c :: rest => (digitFrom '1' '9' c).map (·, rest)
  | c :: rest => (digitFrom '1' '9' c).map (·, rest)
  | [] => none

/-- Reads a day as two digits, as one that is not zero, or as one after a blank. The second digit
of a day from 10 to 29 may be of any script. -/
def readDay : List Char → Option (Nat × List Char)
  | '3' :: c :: rest =>
    match digitFrom '0' '1' c with
    | some units => some (30 + units, rest)
    | none => some (3, c :: rest)
  | '0' :: c :: rest => (digitFrom '1' '9' c).map (·, rest)
  | ' ' :: c :: rest => (digitFrom '1' '9' c).map (·, rest)
  | tens :: c :: rest =>
    match digitFrom '1' '2' tens, Text.digitValue? c with
    | some t, some units => some (10 * t + units, rest)
    | _, _ => (digitFrom '1' '9' tens).map (·, c :: rest)
  | [c] => (digitFrom '1' '9' c).map (·, [])
  | [] => none

/-- What follows a hyphen. -/
def afterHyphen : List Char → Option (List Char)
  | '-' :: rest => some rest
  | _ => none

/-- Reads a year, a month and a day with hyphens between and nothing around them. -/
def readChars (cs : List Char) : Option Date := do
  let (year, rest) ← readYear cs
  let (month, rest) ← (afterHyphen rest).bind readMonth
  let (day, rest) ← (afterHyphen rest).bind readDay
  let date : Date := ⟨year, month, day⟩
  if rest.isEmpty && date.isReal then some date else none

/-- The date that a text of the feed stands for. -/
def read? (s : String) : Option Date := readChars s.toList

end ReleaseLines.Date
