import ReleaseLines.Console.Table
import ReleaseLines.Feed.Settings
import ReleaseLines.Level

namespace ReleaseLines

/-- Something that others can see a computation do. -/
inductive Event
  /-- A message for the log, whether or not its level is let through. -/
  | logged (level : Level) (message : String)
  /-- The log lets messages of this level and above through from now on. -/
  | thresholdSet (level : Level)
  /-- Plain text on standard output. -/
  | printed (text : String)
  /-- Markup that the console shows on a line of its own. -/
  | shown (markup : String)
  /-- A table that the console shows. -/
  | tabulated (table : Table)
  /-- A request for the feed. -/
  | requested (address : String) (timeout : Timeout)
  /-- A wait between two requests. -/
  | waited (seconds : Nat)
  /-- A command was run, for so many seconds at most. -/
  | launched (command : List String) (seconds : Nat)
  /-- A feed client was made, with the settings given, if any. -/
  | clientMade (settings : Option Feed.Settings)
  deriving DecidableEq, Repr

namespace Event

/-- The address and the time limit of a request. -/
def request? : Event → Option (String × Timeout)
  | requested address timeout => some (address, timeout)
  | _ => none

/-- The seconds of a wait. -/
def wait? : Event → Option Nat
  | waited seconds => some seconds
  | _ => none

/-- The words of a command and how many seconds it may take. -/
def command? : Event → Option (List String × Nat)
  | launched command seconds => some (command, seconds)
  | _ => none

def client? : Event → Option (Option Feed.Settings)
  | clientMade settings => some settings
  | _ => none

/-- The messages that the log lets through, starting from a threshold. -/
def messages (threshold : Level) : List Event → List (Level × String)
  | [] => []
  | logged level message :: rest =>
    if level.passes threshold then (level, message) :: messages threshold rest
    else messages threshold rest
  | thresholdSet level :: rest => messages level rest
  | _ :: rest => messages threshold rest

end Event

/-- Something that appears on standard output. -/
inductive Display
  | text (text : String)
  | markup (markup : String)
  | table (table : Table)
  deriving DecidableEq, Repr

namespace Event

/-- What appears on standard output, texts that follow each other as one. -/
def displays : List Event → List Display
  | [] => []
  | printed text :: rest =>
    match displays rest with
    | .text following :: others => .text (text ++ following) :: others
    | others => .text text :: others
  | shown markup :: rest => .markup markup :: displays rest
  | tabulated table :: rest => .table table :: displays rest
  | _ :: rest => displays rest

end Event

end ReleaseLines
