import ReleaseLines.Act.Basic
import ReleaseLines.Console.Markup

namespace ReleaseLines

variable {σ α : Type}

/-- How grave an annotation is. -/
inductive AnnotationKind
  | warning
  | error
  deriving DecidableEq, Repr

namespace AnnotationKind

def name : AnnotationKind → String
  | warning => "warning"
  | error => "error"

def label : AnnotationKind → String
  | warning => "Warning"
  | error => "Error"

end AnnotationKind

/-- Where the program runs: by hand, or as a step of a workflow that reads commands from its
output. -/
inductive Setting
  | terminal
  | workflow
  deriving DecidableEq, Repr

/-- A remark on the run. -/
structure Annotation where
  kind : AnnotationKind
  message : String
  title : Option String
  deriving DecidableEq, Repr

namespace Annotation

/-- The title, unless it is missing or empty. -/
def title? (a : Annotation) : Option String := a.title.filter (· != "")

/-- The annotation as a command to the workflow. -/
def command (a : Annotation) : String :=
  match a.title? with
  | some title => "::" ++ a.kind.name ++ " title=" ++ title ++ "::" ++ a.message
  | none => "::" ++ a.kind.name ++ "::" ++ a.message

/-- The annotation as markup. -/
def markup (a : Annotation) : String :=
  let head :=
    match a.title? with
    | some title => a.kind.label ++ " (" ++ title ++ "):"
    | none => a.kind.label ++ ":"
  Markup.styled a.kind.name head ++ " " ++ Markup.escape a.message

/-- Shows the annotation. -/
def post (setting : Setting) (a : Annotation) : Act σ Unit :=
  match setting with
  | .workflow => Act.print a.command
  | .terminal => Act.emit (.shown a.markup)

end Annotation

/-- Runs under a heading that a workflow can fold away; the end is marked also after a fault. -/
def grouped (setting : Setting) (title : String) (act : Act σ α) : Act σ α :=
  match setting with
  | .terminal => act
  | .workflow => do
    Act.print ("::group::" ++ title)
    act.either fun result => do
      Act.print "::endgroup::"
      Act.ofExcept result

end ReleaseLines
