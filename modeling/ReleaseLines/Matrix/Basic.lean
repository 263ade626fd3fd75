import ReleaseLines.Json.Writer
import ReleaseLines.Version

namespace ReleaseLines

/-- The lines that a project should be tested against, and where they came from. -/
structure SupportMatrix where
  versions : List String
  expression : String
  source : String
  candidates : List String
  deriving DecidableEq, Repr

namespace SupportMatrix

/-- The source of lines that the feed lists. -/
def feedSource : String := "endoflife.date"

/-- The source of lines from the built-in list. -/
def fallbackSource : String := "fallback"

/-- The newest line, to build with. -/
def buildVersion (matrix : SupportMatrix) : Option String := matrix.versions.getLast?

def usedFallback (matrix : SupportMatrix) : Bool := matrix.source == fallbackSource

/-- The lines as a JSON array. -/
def versionsText (matrix : SupportMatrix) : String := (Json.texts matrix.versions).write

/-- The lines as a build matrix with one axis. -/
def matrixText (matrix : SupportMatrix) : String :=
  (Json.obj [("python-version", Json.texts matrix.versions)]).write

/-- The four lines that an output file gets. -/
def outputLines (matrix : SupportMatrix) : List String :=
  ["version_matrix=" ++ matrix.versionsText,
   "matrix_json=" ++ matrix.matrixText,
   "build_version=" ++ matrix.buildVersion.getD "",
   "matrix_source=" ++ matrix.source]

end SupportMatrix

/-- The texts with the line that each one names. -/
def withVersions : List String → Except BadValue (List (Version × String))
  | [] => .ok []
  | text :: rest => do
    let version ← Version.read text
    let others ← withVersions rest
    return (version, text) :: others

/-- The texts in ascending order of their lines, each one once. They stand for a set: the order
among different texts of one line, here that in which they first come, means nothing. -/
def sortLines (texts : List String) : Except BadValue (List String) := do
  let keyed ← withVersions texts.eraseDups
  return (keyed.mergeSort fun a b => a.1 ≤ b.1).map (·.2)

end ReleaseLines
