import ReleaseLines.BadValue
import ReleaseLines.Numeral

namespace ReleaseLines

/-- What a failure outside this library says about where it came from. -/
inductive Origin
  /-- A request took longer than allowed. -/
  | requestTimeout
  /-- A request failed in any other way. -/
  | request
  /-- A command to run does not exist. -/
  | missingCommand
  /-- A command ran longer than allowed. -/
  | commandTimeout
  /-- The operating system refused. -/
  | system
  /-- Anything else. -/
  | other
  deriving DecidableEq, Repr

/-- A failure outside this library, under the name it was reported with. -/
structure ForeignFault where
  origin : Origin
  name : String
  message : String
  deriving DecidableEq, Repr

/-- Why a file cannot be opened for writing. -/
inductive FileFault
  | missing (path : String)
  | isDirectory (path : String)
  | notDirectory (path : String)
  | nameTooLong (path : String)
  /-- A path cannot hold the character that ends it. -/
  | embeddedZero
  deriving DecidableEq, Repr

namespace FileFault

def message : FileFault → String
  | missing path => "[Errno 2] No such file or directory: " ++ Text.quoted path
  | isDirectory path => "[Errno 21] Is a directory: " ++ Text.quoted path
  | notDirectory path => "[Errno 20] Not a directory: " ++ Text.quoted path
  | nameTooLong path => "[Errno 36] File name too long: " ++ Text.quoted path
  | embeddedZero => "embedded null byte"

end FileFault

/-- Why an operation has no result. -/
inductive Fault
  | general (text : String)
  | configuration (text : String)
  | constraint (text : String)
  | emptyConstraint (text : String)
  | malformedConstraint (segment : String) (reason : String)
  | noConstraints (text : String)
  | noCandidates (text : String)
  | noMatch (expression : String)
  | catalog (text : String)
  /-- Every attempt failed and none of them said why. -/
  | fetchAbandoned (attempts : Int)
  /-- Every attempt failed; `chained` tells whether the last failure is recorded as the cause. -/
  | fetchExhausted (attempts : Int) (last : Fault) (chained : Bool)
  | badValue (problem : BadValue)
  | unknownLevel (name : String)
  | file (problem : FileFault)
  | unprintable (kind : String)
  | foreign (problem : ForeignFault)
  deriving DecidableEq, Repr

/-- The kinds of fault that a caller can tell apart. -/
inductive FaultKind
  | general
  | configuration
  | constraint
  | emptyConstraint
  | malformedConstraint
  | noConstraints
  | noCandidates
  | noMatch
  | catalog
  | fetchExhausted
  deriving DecidableEq, Repr

namespace FaultKind

/-- The wider kind that a kind belongs to. -/
def wider : FaultKind → Option FaultKind
  | general => none
  | configuration | constraint | noCandidates | noMatch | catalog => some general
  | emptyConstraint | malformedConstraint | noConstraints => some constraint
  | fetchExhausted => some catalog

/-- The kind and the wider kinds it belongs to, narrowest first. -/
def lineage (kind : FaultKind) : List FaultKind :=
  match kind.wider with
  | none => [kind]
  | some wide =>
    match wide.wider with
    | none => [kind, wide]
    | some widest => [kind, wide, widest]

end FaultKind

namespace Fault

/-- The message of an empty expression where no other is given. -/
def emptyExpression : Fault := emptyConstraint "empty constraint string"

/-- The fault of an empty expression that was meant to be resolved. -/
def emptyRequirement : Fault := emptyConstraint "requires-python constraint is empty"

def noConstraintsFound : Fault := noConstraints "no valid constraints found"

def noCandidatesLeft : Fault := noCandidates "no supported versions available"

def attemptsText (attempts : Int) : String :=
  "failed to fetch EOL data after " ++ Numeral.intText attempts ++ " attempt(s)"

def message : Fault → String
  | general text | configuration text | constraint text | emptyConstraint text
  | noConstraints text | noCandidates text | catalog text => text
  | malformedConstraint segment reason =>
    "invalid constraint format: '" ++ segment ++ "'" ++
      (if reason == "" then "" else " (" ++ reason ++ ")")
  | noMatch expression => "no versions match the constraint '" ++ expression ++ "'"
  | fetchAbandoned attempts => attemptsText attempts
  | fetchExhausted attempts last _ => attemptsText attempts ++ ": " ++ last.message
  | badValue problem => problem.message
  | unknownLevel name => "module 'logging' has no attribute '" ++ name ++ "'"
  | file problem => problem.message
  | unprintable kind =>
    "unable to render " ++ kind ++ "; a string or other renderable object is required"
  | foreign problem => problem.message

/-- The kind of a fault of this library's own; other faults have none. -/
def kind? : Fault → Option FaultKind
  | general _ => some .general
  | configuration _ => some .configuration
  | constraint _ => some .constraint
  | emptyConstraint _ => some .emptyConstraint
  | malformedConstraint _ _ => some .malformedConstraint
  | noConstraints _ => some .noConstraints
  | noCandidates _ => some .noCandidates
  | noMatch _ => some .noMatch
  | catalog _ => some .catalog
  | fetchAbandoned _ | fetchExhausted _ _ _ => some .fetchExhausted
  | badValue _ | unknownLevel _ | file _ | unprintable _ | foreign _ => none

/-- Whether a fault is of a kind or of a narrower one. -/
def isA (fault : Fault) (kind : FaultKind) : Bool :=
  fault.kind?.any fun own => own.lineage.contains kind

end Fault

end ReleaseLines
