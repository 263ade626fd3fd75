import ReleaseLines.Fault

namespace ReleaseLines

/-- How a constraint compares a line with its bound. -/
inductive Operator
  | ge
  | gt
  | le
  | lt
  | eq
  | ne
  /-- At least the bound and on the same line. -/
  | compatible
  /-- At least the bound and with the same major number. -/
  | caret
  deriving DecidableEq, Repr

namespace Operator

def symbol : Operator → String
  | ge => ">="
  | gt => ">"
  | le => "<="
  | lt => "<"
  | eq => "=="
  | ne => "!="
  | compatible => "~="
  | caret => "^"

/-- All operators, those with two characters first. -/
def all : List Operator := [ge, le, eq, ne, compatible, gt, lt, caret]

/-- The operator that a text spells. -/
def ofSymbol? (symbol : String) : Option Operator :=
  all.find? (·.symbol == symbol)

/-- The longest operator at the start of a text, and what follows it. -/
def scan? : List Char → Option (Operator × List Char)
  | '>' :: '=' :: rest => some (ge, rest)
  | '<' :: '=' :: rest => some (le, rest)
  | '=' :: '=' :: rest => some (eq, rest)
  | '!' :: '=' :: rest => some (ne, rest)
  | '~' :: '=' :: rest => some (compatible, rest)
  | '>' :: rest => some (gt, rest)
  | '<' :: rest => some (lt, rest)
  | '^' :: rest => some (caret, rest)
  | _ => none

end Operator

/-- One requirement on a release line. -/
structure Constraint where
  operator : Operator
  version : String
  deriving DecidableEq, Repr

namespace Constraint

def text (c : Constraint) : String := c.operator.symbol ++ c.version

end Constraint

end ReleaseLines
