import ReleaseLines.CommandLine.Program

namespace ReleaseLines.Main

open CommandLine

/-- The variables that the program looks at. -/
def variableNames : List String :=
  ["REQUIRES_PYTHON", "EOL_API_URL", "EOL_TIMEOUT", "EOL_MAX_RETRIES", "OFFLINE", "OUTPUT_FORMAT",
   "LOG_LEVEL", "GITHUB_OUTPUT"]

/-- The variables that are set, with their values. -/
def environment : IO (List (String × String)) := do
  let values ← variableNames.mapM fun name => do
    return (← IO.getEnv name).map (name, ·)
  return values.filterMap id

/-- What is known of the files around a path: the file there, or the directory that it would be made
in. -/
def filesAt (path : String) : IO Files := do
  if path == "" then return []
  try return [(path, ← IO.FS.readFile path)]
  catch _ =>
    let around := String.ofList (path.toList.reverse.dropWhile (· != '/')).reverse
    try
      let _ ← IO.FS.realPath around
      return [(around, "")]
    catch _ => return []

def showTable (table : Table) : IO Unit := do
  IO.println table.title
  IO.println (String.intercalate " | " (table.columns.map (·.heading)))
  for row in table.rows do IO.println (String.intercalate " | " row)

def showDisplay : Display → IO Unit
  | .text text => IO.print text
  | .markup markup => IO.println markup
  | .table table => showTable table

/-- Writes the files that have changed. -/
def writeFiles (before after : Files) : IO Unit := do
  for (name, content) in after do
    if before.content? name != some content then IO.FS.writeFile name content

end ReleaseLines.Main

open ReleaseLines in
/-- Runs the program without a network and shows what it did. -/
def main (arguments : List String) : IO UInt32 := do
  let environment ← Main.environment
  let setting :=
    if (← IO.getEnv "GITHUB_ACTIONS") == some "true" then Setting.workflow else Setting.terminal
  let files ← Main.filesAt ((environment.lookup "GITHUB_OUTPUT").getD "")
  let outcome :=
    CommandLine.runProgram ⟨environment, setting, .bare⟩ arguments ⟨.unconnected, files⟩
  for (level, message) in Event.messages .info outcome.events do
    IO.eprintln (level.name ++ " - " ++ message)
  for display in Event.displays outcome.events do Main.showDisplay display
  Main.writeFiles files outcome.state.files
  match outcome.result with
  | .ok exit =>
    IO.eprint exit.complaint
    return exit.status.toUInt32
  | .error fault =>
    IO.eprintln fault.message
    return 1
