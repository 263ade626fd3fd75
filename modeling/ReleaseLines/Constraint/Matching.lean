import ReleaseLines.Constraint.Basic
import ReleaseLines.Version

namespace ReleaseLines

/-- Whether an operator admits a line at a bound. -/
def Operator.admits (operator : Operator) (line bound : Version) : Bool :=
  match operator with
  | ge => (line.order bound).isGE
  | gt => (line.order bound).isGT
  | le => (line.order bound).isLE
  | lt => (line.order bound).isLT
  | eq => (line.order bound).isEq
  | ne => (line.order bound).isNe
  | compatible => (line.order bound).isGE && line == bound
  | caret => (line.order bound).isGE && line.major == bound.major

namespace Constraint

/-- Whether a line satisfies a constraint. The line is read before the bound. -/
def isSatisfiedBy (c : Constraint) (line : String) : Except BadValue Bool := do
  let version ← Version.read line
  let bound ← Version.read c.version
  return c.operator.admits version bound

/-- Whether a line satisfies every constraint. Those after the first that it does not satisfy are
not looked at. -/
def allSatisfiedBy (line : String) : List Constraint → Except BadValue Bool
  | [] => .ok true
  | c :: rest => do
    let satisfied ← c.isSatisfiedBy line
    if satisfied then allSatisfiedBy line rest else return false

/-- The lines that satisfy every constraint, in order; every line is looked at. -/
def keepSatisfying (constraints : List Constraint) : List String → Except BadValue (List String)
  | [] => .ok []
  | line :: rest => do
    let satisfied ← allSatisfiedBy line constraints
    let kept ← keepSatisfying constraints rest
    return if satisfied then line :: kept else kept

/-- The lines that satisfy every constraint, in order. Without constraints no line is read. -/
def select (lines : List String) (constraints : List Constraint) : Except BadValue (List String) :=
  if constraints.isEmpty then .ok lines else keepSatisfying constraints lines

end Constraint

end ReleaseLines
