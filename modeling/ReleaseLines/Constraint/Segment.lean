import ReleaseLines.Constraint.Basic

namespace ReleaseLines.Segment

/-- Where a segment leaves the grammar. -/
inductive Flaw
  | unknownOperator
  | noVersion
  | noDot
  | noMinor
  | noPatch
  | trailing
  deriving DecidableEq, Repr

def Flaw.text : Flaw → String
  | unknownOperator => "unknown operator"
  | noVersion => "expected a version number"
  | noDot => "expected major.minor"
  | noMinor => "expected a minor version"
  | noPatch => "expected a patch version"
  | trailing => "unexpected trailing characters"

/-- Reads an optional patch: what follows it. -/
def afterPatch : List Char → Except Flaw (List Char)
  | '.' :: rest =>
    if (rest.takeWhile Text.isDigit).isEmpty then .error .noPatch
    else .ok (rest.dropWhile Text.isDigit)
  | cs => .ok cs

/-- Reads a version with an optional patch up to the end: its major and minor digits. -/
def scanVersion (cs : List Char) : Except Flaw (List Char × List Char) :=
  let major := cs.takeWhile Text.isDigit
  if major.isEmpty then .error .noVersion
  else
    match cs.dropWhile Text.isDigit with
    | '.' :: rest => do
      let minor := rest.takeWhile Text.isDigit
      if minor.isEmpty then .error .noMinor
      else
        let tail ← afterPatch (rest.dropWhile Text.isDigit)
        if tail.isEmpty then .ok (major, minor) else .error .trailing
    | _ => .error .noDot

/-- Reads an operator, optional blanks and a version: the operator and the digits. -/
def scan (cs : List Char) : Except Flaw (Operator × List Char × List Char) :=
  match Operator.scan? cs with
  | none => .error .unknownOperator
  | some (operator, rest) =>
    (scanVersion (rest.dropWhile Text.isBlank)).map (operator, ·)

/-- Writes the numbers of two runs of digits without superfluous zeros. -/
def canonicalVersion (major minor : List Char) : Except BadValue String := do
  let major ← Numeral.read major
  let minor ← Numeral.read minor
  return (← Numeral.write major) ++ "." ++ (← Numeral.write minor)

/-- Reads one constraint. The patch is dropped and leading zeros are too, so that each line has one
spelling. -/
def readChars (segment : List Char) : Except Fault Constraint :=
  match scan segment with
  | .error flaw => .error (.malformedConstraint (String.ofList segment) flaw.text)
  | .ok (operator, major, minor) =>
    match canonicalVersion major minor with
    | .error problem => .error (.badValue problem)
    | .ok version => .ok ⟨operator, version⟩

/-- Reads one constraint without blanks around it. -/
def read (segment : String) : Except Fault Constraint := readChars segment.toList

end ReleaseLines.Segment
