import ReleaseLines.Configuration.Basic
import ReleaseLines.Console.Annotation
import ReleaseLines.Console.Report
import ReleaseLines.Matrix.Builder
import ReleaseLines.Output.Files

namespace ReleaseLines

variable {α : Type}

/-- What a run can change: the desk of the feed client and the files of the working directory. -/
structure Host where
  desk : Feed.Desk
  files : Files

namespace Host

/-- Runs at the desk. -/
def atDesk (act : Act Feed.Desk α) : Act Host α :=
  act.within Host.desk fun host desk => { host with desk }

end Host

namespace Output

/-- Adds the four output lines of a matrix at the end of a file. -/
def write (path : String) (matrix : SupportMatrix) : Act Files Unit := do
  let name ← Act.ask (Files.target · path)
  match name with
  | .error problem => Act.fail (.file problem)
  | .ok name =>
    let lines := matrix.outputLines
    Act.modify (·.append name (String.intercalate "\n" lines ++ "\n"))
    Act.log .debug ("Wrote " ++ Numeral.natText lines.length ++ " outputs to " ++ path)

/-- The remark on a matrix that had to use the built-in list. -/
def fallbackRemark : Annotation where
  kind := .warning
  message := "Could not use endoflife.date data, the built-in fallback list (last reviewed " ++
    Feed.fallbackReviewed ++ ") was used"
  title := some "Python EOL data"

/-- The fields of a summary. -/
def summaryFields (matrix : SupportMatrix) : List (String × Json) :=
  [("requires-python", .str matrix.expression),
   ("Build version", (matrix.buildVersion.map Json.str).getD .null),
   ("Source", .str matrix.source)]

/-- Shows a matrix as tables. The catalog is used only if the lines came from the feed. -/
def showTables (matrix : SupportMatrix) : Act Feed.Desk Unit := do
  let snapshot ← Act.ask Feed.Desk.snapshot
  let today ← Act.ask Feed.Desk.today
  let catalog := if matrix.usedFallback then [] else (snapshot.map (·.catalog)).getD []
  let table ← Act.ofExcept (Report.matrixTable Report.matrixTitle matrix.versions catalog today)
  Act.emit (.tabulated table)
  Report.postSummary "Summary" (summaryFields matrix) false

/-- Shows a matrix in the format asked for. -/
def post (configuration : Configuration) (matrix : SupportMatrix) : Act Host Unit := do
  if configuration.outputFormat == "text" then Host.atDesk (showTables matrix)
  else Act.print matrix.versionsText
  if configuration.outputFormat == "github" then
    match configuration.outputPath.filter (· != "") with
    | some path => (write path matrix).within Host.files fun host files => { host with files }
    | none => Act.log .warning "GITHUB_OUTPUT is not set, outputs were only printed"

end Output

namespace Configuration

/-- The settings of the client that a run makes. -/
def clientSettings (c : Configuration) : Feed.Settings := ⟨c.address, c.timeout, c.retries⟩

/-- Resolves the matrix and shows it. A client that is given is used instead of a new one. -/
def run (c : Configuration) (setting : Setting) (client : Option Feed.Client) :
    Act Host SupportMatrix := do
  let client ←
    match client with
    | some client => pure client
    | none => Host.atDesk (Feed.Client.prepare c.clientSettings)
  let matrix ← Host.atDesk (SupportMatrix.build c.expression (some client.provider) c.offline)
  if matrix.usedFallback && !c.offline then Output.fallbackRemark.post setting
  Output.post c matrix
  return matrix

end Configuration

end ReleaseLines
