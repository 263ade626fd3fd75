import ReleaseLines.Act.Basic
import ReleaseLines.Console.Markup
import ReleaseLines.Feed.Entry
import ReleaseLines.Json.Display

namespace ReleaseLines.Report

variable {σ : Type}

/-- Labels and values in two columns. Values that say nothing are left out unless `complete`; where
none is left there is no table. -/
def summary? (title : String) (fields : List (String × Json)) (complete : Bool) : Option Table :=
  let fields := if complete then fields else fields.filter (·.2.isTelling)
  if fields.isEmpty then none
  else
    some {
      title
      columns := [.styled "Field" "cyan", ⟨"Value", "", .right⟩]
      rows := fields.map fun field => [field.1, Markup.escape field.2.display] }

/-- Shows a summary, if there is anything to show. -/
def postSummary (title : String) (fields : List (String × Json)) (complete : Bool) : Act σ Unit :=
  match summary? title fields complete with
  | none => return ()
  | some table => Act.emit (.tabulated table)

/-- The kind of a value, as a table names what it cannot show. -/
def kindName : Json → String
  | .null => "NoneType"
  | .bool _ => "bool"
  | .int _ => "int"
  | .real _ => "float"
  | .str _ => "str"
  | .arr _ => "list"
  | .obj _ => "dict"

/-- The cell of a latest patch: a hyphen where there is none. Only a text can be shown. -/
def patchCell (patch : Json) : Except Fault String :=
  if !patch.isTelling then .ok "-"
  else
    match patch with
    | .str text => .ok text
    | other => .error (.unprintable (kindName other))

/-- The row of a line: its latest patch and where it stands. -/
def matrixRow (catalog : Feed.Catalog) (today : Date) (line : String) :
    Except Fault (List String) :=
  match catalog.find? line with
  | none => .ok [line, "-", Markup.styled "info" "fallback list"]
  | some entry => do
    let status := entry.describe today
    let style := if "EOL".toList.isPrefixOf status.toList then "eol" else "supported"
    let patch ← patchCell entry.latestPatch
    return [line, patch, Markup.styled style status]

/-- The title of a table of lines where no other is given. -/
def matrixTitle : String := "Python Support Matrix"

/-- The lines with their latest patches and where they stand on a day. -/
def matrixTable (title : String) (lines : List String) (catalog : Feed.Catalog) (today : Date) :
    Except Fault Table := do
  let rows ← lines.mapM (matrixRow catalog today)
  return {
    title
    columns := [.styled "Version" "highlight", .plain "Latest", .plain "Status"]
    rows }

end ReleaseLines.Report
