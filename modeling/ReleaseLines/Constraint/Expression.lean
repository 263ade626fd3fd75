import ReleaseLines.Constraint.Segment
import ReleaseLines.Constraint.Token

namespace ReleaseLines.Expression

/-- An expression in plain comparisons: every token between commas is normalized, and empty ones
are kept. -/
def normalizeChars (expression : List Char) : Except BadValue (List Char) :=
  ((Text.commaPieces (Text.trim expression)).mapM Token.normalizeChars).map
    (List.intercalate [','])

/-- An expression in plain comparisons. -/
def normalize (expression : String) : Except BadValue String :=
  (normalizeChars expression.toList).map String.ofList

/-- The segments between commas without blanks around them, blank ones left out. -/
def segments (expression : List Char) : List (List Char) :=
  ((Text.commaPieces expression).map Text.trim).filter (!·.isEmpty)

/-- Reads all segments in order; there must be one. -/
def readSegments (expression : List Char) : Except Fault (List Constraint) :=
  match segments expression with
  | [] => .error .noConstraintsFound
  | found => found.mapM Segment.readChars

/-- Reads an expression that is already in plain comparisons. -/
def readPlain (expression : String) : Except Fault (List Constraint) :=
  if expression == "" then .error .emptyExpression else readSegments expression.toList

/-- Normalizes and reads an expression. -/
def read (expression : String) : Except Fault (List Constraint) :=
  if expression == "" then .error .emptyExpression
  else
    match normalizeChars expression.toList with
    | .error problem => .error (.badValue problem)
    | .ok plain => readSegments plain

end ReleaseLines.Expression
