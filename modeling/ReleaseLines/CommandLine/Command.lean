import ReleaseLines.CommandLine.Reader

namespace ReleaseLines.CommandLine

/-- The two commands of the program. -/
inductive Command
  | program
  | tools
  deriving DecidableEq, Repr

namespace Command

def name : Command → String
  | program => "version-matrix"
  | tools => "version-matrix tools"

def usage : Command → String
  | program => "Usage: version-matrix [OPTIONS] [COMMAND] [ARGS]..."
  | tools => "Usage: version-matrix tools [OPTIONS] [VERSIONS]..."

/-- The words that name a command of the program. -/
def words : List String := ["tools"]

def options : Command → OptionTable
  | program => programOptions
  | tools => toolsOptions

def parameters : Command → List Parameter
  | program => Parameter.ofProgram
  | tools => Parameter.ofTools

/-- The options of a command with what they stand for. -/
def optionLines : Command → List String
  | program => [
    "  --requires-python, -r TEXT  Version constraint, e.g. >=3.10,<3.14 or ^3.11.",
    "  --feed-url TEXT             Address of the feed.",
    "  --timeout FLOAT             Request timeout in seconds (default: 6).",
    "  --max-retries INTEGER       Retries after the first request (default: 2).",
    "  --offline / --online        Use the built-in list instead of the feed.",
    "  -f, --format TEXT           json, text or github (default: json).",
    "  --log-level TEXT            debug, info, warning or error (default: info).",
    "  -V, --version               Show the version and exit.",
    "  -h, --help                  Show this message and exit."]
  | tools => [
    "  --offline / --online  Check the built-in list instead of the feed.",
    "  -h, --help            Show this message and exit."]

/-- How the command is used. -/
def help (command : Command) : String :=
  String.intercalate "\n" (command.usage :: "" :: "Options:" :: command.optionLines)

end Command

/-- How the program ends: its status, and what it complains about. -/
structure Exit where
  status : Nat
  complaint : String
  deriving DecidableEq, Repr

namespace Exit

def success : Exit := ⟨0, ""⟩

def failure : Exit := ⟨1, ""⟩

/-- The end of a program that was called in a wrong way. -/
def ofComplaint (command : Command) (complaint : Complaint) : Exit :=
  let reminder :=
    if complaint.remindsOfUsage then
      command.usage ++ "\nTry '" ++ command.name ++ " --help' for help.\n\n"
    else ""
  ⟨2, reminder ++ "Error: " ++ complaint.message ++ "\n"⟩

end Exit

end ReleaseLines.CommandLine
