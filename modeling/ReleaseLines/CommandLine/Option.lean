import ReleaseLines.Binary64.Reader
import ReleaseLines.Configuration.Basic
import ReleaseLines.Text.Quoted

namespace ReleaseLines.CommandLine

/-- What the program can be told on its command line. -/
inductive Parameter
  | expression
  | address
  | timeout
  | retries
  | offline
  | format
  | logLevel
  | version
  | help
  deriving DecidableEq, Repr

/-- What an option does: it takes the value that follows, or it is a switch with a fixed value. -/
inductive OptionKind
  | value
  | switch (on : Bool)
  deriving DecidableEq, Repr

/-- The value of an option that was given. -/
inductive Given
  | text (value : String)
  | switched (on : Bool)
  deriving DecidableEq, Repr

/-- The options of a command by their names. -/
abbrev OptionTable := List (String × Parameter × OptionKind)

/-- The names that begin with two hyphens. -/
def OptionTable.longNames (options : OptionTable) : List String :=
  (options.map (·.1)).filter fun name => "--".toList.isPrefixOf name.toList

/-- The names of the switches between the feed and the built-in list. -/
def offlineOptions : OptionTable :=
  [("--offline", .offline, .switch true), ("--online", .offline, .switch false)]

def helpOptions : OptionTable := [("-h", .help, .switch true), ("--help", .help, .switch true)]

/-- The options of the program. -/
def programOptions : OptionTable :=
  [("--requires-python", .expression, .value), ("-r", .expression, .value),
   ("--feed-url", .address, .value), ("--timeout", .timeout, .value),
   ("--max-retries", .retries, .value)] ++ offlineOptions ++
  [("-f", .format, .value), ("--format", .format, .value), ("--log-level", .logLevel, .value),
   ("-V", .version, .switch true), ("--version", .version, .switch true)] ++ helpOptions

/-- The options of the command that looks for interpreters. -/
def toolsOptions : OptionTable := offlineOptions ++ helpOptions

namespace Parameter

/-- The parameters of the program in the order in which they are read when none is given. -/
def ofProgram : List Parameter :=
  [expression, address, timeout, retries, offline, format, logLevel, version, help]

/-- The parameters of the command that looks for interpreters. -/
def ofTools : List Parameter := [offline, help]

/-- A parameter that is answered before any other is read. -/
def isEager : Parameter → Bool
  | version | help => true
  | _ => false

/-- The variable that gives a value where the command line does not. -/
def source? : Parameter → Option String
  | expression => some "REQUIRES_PYTHON"
  | address => some "EOL_API_URL"
  | timeout => some "EOL_TIMEOUT"
  | retries => some "EOL_MAX_RETRIES"
  | format => some "OUTPUT_FORMAT"
  | logLevel => some "LOG_LEVEL"
  | offline | version | help => none

/-- The name of a parameter in a complaint about its value. -/
def hint : Parameter → String
  | expression => "'--requires-python' / '-r'"
  | address => "'--feed-url'"
  | timeout => "'--timeout'"
  | retries => "'--max-retries'"
  | offline => "'--offline' / '--online'"
  | format => "'-f' / '--format'"
  | logLevel => "'--log-level'"
  | version => "'-V' / '--version'"
  | help => "'-h' / '--help'"

end Parameter

/-- The word of a list that a text spells in any letter case. -/
def choose? (words : List String) (text : String) : Option String :=
  words.find? (Text.spells text)

/-- The complaint about a text that spells none of the words. -/
def notChosen (words : List String) (text : String) : String :=
  Text.quoted text ++ " is not one of " ++
    Text.listed (words.map fun word => Text.quoted (Text.lowercase word)) ++ "."

/-- Adds the value of a parameter to the choices, or says what is wrong with it. -/
def Parameter.read (parameter : Parameter) (value : Given) (choices : Configuration.Choices) :
    Except String Configuration.Choices :=
  match parameter, value with
  | expression, .text value => .ok { choices with expression := some value }
  | address, .text value => .ok { choices with address := some value }
  | timeout, .text value =>
    match Binary64.read? value with
    | some seconds => .ok { choices with timeout := some (.real seconds) }
    | none => .error (Text.quoted value ++ " is not a valid float.")
  | retries, .text value =>
    match Numeral.read value.toList with
    | .ok count => .ok { choices with retries := some count }
    | .error _ => .error (Text.quoted value ++ " is not a valid integer.")
  | format, .text value =>
    match choose? Configuration.outputFormats value with
    | some word => .ok { choices with outputFormat := some word }
    | none => .error (notChosen Configuration.outputFormats value)
  | logLevel, .text value =>
    match choose? Configuration.logLevels value with
    | some word => .ok { choices with logLevel := some word }
    | none => .error (notChosen Configuration.logLevels value)
  | offline, .switched on => .ok { choices with offline := some on }
  | _, _ => .ok choices

end ReleaseLines.CommandLine
