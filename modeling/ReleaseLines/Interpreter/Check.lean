import ReleaseLines.Act.Basic
import ReleaseLines.Console.Markup
import ReleaseLines.Interpreter.VersionText

namespace ReleaseLines

variable {σ : Type}

/-- How a command ends. -/
inductive Launch
  | finished (output complaints : String)
  | failed (fault : Fault)
  deriving Repr

/-- The machine that interpreters are looked for on. -/
structure Machine where
  /-- The path of a command. -/
  locate : String → Option String
  /-- What happens when a command with its arguments is run. -/
  launch : List String → Launch

namespace Machine

/-- A failure to run a command that does not exist. -/
def notFound (command : String) : Launch :=
  .failed (.foreign ⟨.missingCommand, "FileNotFoundError",
    (FileFault.missing command).message⟩)

/-- A machine on which nothing is found. -/
def bare : Machine := ⟨fun _ => none, fun command => notFound (command.headD "")⟩

end Machine

/-- What is known of the interpreter of a line. -/
structure Interpreter where
  line : String
  path : Option String
  version : Option String
  deriving DecidableEq, Repr

namespace Interpreter

def nameOf (line : String) : String := "Python " ++ line

def commandOf (line : String) : String := "python" ++ line

def name (i : Interpreter) : String := nameOf i.line

def command (i : Interpreter) : String := commandOf i.line

def isAvailable (i : Interpreter) : Bool := i.path.isSome

/-- The version in what an interpreter printed. Where none is recognised it is the first line that
is not blank, and the log says so. -/
def readOutput (output : String) : Act σ (Option String) :=
  match VersionText.search? output.toList with
  | some version => return some (String.ofList version)
  | none =>
    match VersionText.firstLine? output.toList with
    | some line => do
      Act.log .debug ("Unrecognised version output, using first line: " ++ String.ofList line)
      return some (String.ofList line)
    | none => return none

/-- Whether a failure means that the command does not exist. -/
def isMissing : Fault → Bool
  | .foreign ⟨.missingCommand, _, _⟩ | .file (.missing _) => true
  | _ => false

/-- Whether a failure means that the command took too long. -/
def isTimeout : Fault → Bool
  | .foreign ⟨.commandTimeout, _, _⟩ => true
  | _ => false

/-- Whether the operating system made a command fail. -/
def isRefusal : Fault → Bool
  | .foreign ⟨.other, _, _⟩ | .file .embeddedZero => false
  | .foreign _ | .file _ => true
  | _ => false

/-- How many seconds a command may take. -/
def timeLimit : Nat := 10

/-- The version that a command reports when run with the given arguments. What makes it fail to run
is only noted in the log. -/
def askVersion (machine : Machine) (command : String) (arguments : List String) :
    Act σ (Option String) := do
  Act.emit (.launched (command :: arguments) timeLimit)
  match machine.launch (command :: arguments) with
  | .finished output complaints => readOutput (output ++ "\n" ++ complaints)
  | .failed fault =>
    if isMissing fault then
      Act.log .debug (command ++ " not found")
      return none
    else if isTimeout fault then
      Act.log .warning (command ++ " " ++ String.intercalate " " arguments ++ " timed out")
      return none
    else if isRefusal fault then
      Act.log .warning ("Could not run " ++ command ++ ": " ++ fault.message)
      return none
    else Act.fail fault

/-- The arguments that make an interpreter print its version. -/
def versionArguments : List String := ["--version"]

/-- Looks for the interpreter of a line, and asks for its version if there is one. -/
def check (machine : Machine) (line : String) : Act σ Interpreter :=
  match machine.locate (commandOf line) with
  | none => return ⟨line, none, none⟩
  | some "" => return ⟨line, some "", none⟩
  | some path => do
    let version ← askVersion machine path versionArguments
    return ⟨line, some path, version⟩

/-- Looks for the interpreter of every line, in order. -/
def checkAll (machine : Machine) : List String → Act σ (List Interpreter)
  | [] => return []
  | line :: rest => do
    let first ← check machine line
    let others ← checkAll machine rest
    return first :: others

/-- The interpreters without those of a line met before. -/
def distinct (found : List Interpreter) : List Interpreter :=
  found.eraseDupsBy fun a b => a.line == b.line

/-- Looks for the interpreter of every line; each line is listed once. -/
def detect (machine : Machine) (lines : List String) : Act σ (List Interpreter) := do
  let found ← checkAll machine lines
  return distinct found

/-- A text, or a hyphen where it is missing or empty. -/
def cell (text : Option String) : String := (text.filter (· != "")).getD "-"

def row (i : Interpreter) : List String :=
  [i.command,
   if i.isAvailable then Markup.styled "success" "yes" else Markup.styled "warning" "no",
   Markup.escape (cell i.version),
   Markup.escape (cell i.path)]

/-- The interpreters with their versions and paths. -/
def table (found : List Interpreter) : Table where
  title := "Local Python Interpreters"
  columns := [.styled "Command" "cyan", .plain "Available", .plain "Version", .plain "Path"]
  rows := found.map row

/-- The command and the version it reports. -/
def summary (i : Interpreter) : String := i.command ++ " (" ++ i.version.getD "None" ++ ")"

/-- Notes in the log which interpreters there are and which are missing. -/
def report (found : List Interpreter) : Act σ Unit := do
  let available := found.filter (·.isAvailable)
  let missing := found.filter (!·.isAvailable)
  if !available.isEmpty then
    Act.log .info ("Available interpreters: " ++ Text.listed (available.map summary))
  if !missing.isEmpty then
    Act.log .warning ("Missing interpreters: " ++ Text.listed (missing.map command))

end Interpreter

end ReleaseLines
