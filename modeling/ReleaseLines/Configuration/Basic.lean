import ReleaseLines.Act.Basic
import ReleaseLines.Configuration.Address
import ReleaseLines.Text.Blank
import ReleaseLines.Text.Case

namespace ReleaseLines

variable {σ : Type}

/-- What a run is asked to do. -/
structure Configuration where
  expression : String
  address : String := Feed.defaultAddress
  timeout : Timeout := Feed.defaultTimeout
  retries : Int := Feed.defaultRetries
  offline : Bool := false
  outputFormat : String := "json"
  logLevel : String := "INFO"
  outputPath : Option String := none
  deriving DecidableEq, Repr

namespace Configuration

def outputFormats : List String := ["json", "text", "github"]

def logLevels : List String := ["DEBUG", "INFO", "WARNING", "ERROR"]

/-- Refuses an address that cannot be asked, and warns of one that is asked in the open. -/
def checkAddress (text : String) : Act σ Unit := do
  let address ← Act.ofValue (Address.read text)
  if address.scheme != "http" && address.scheme != "https" then
    Act.fail (.configuration "EOL feed URL must start with http:// or https://")
  else if address.host == "" then
    Act.fail (.configuration "EOL feed URL must include a valid hostname")
  else if address.scheme == "http" && !address.isLocal then
    Act.log .warning "Using HTTP (not HTTPS) for the EOL feed - consider using HTTPS"

/-- Refuses a configuration that cannot be run. The address does not count when offline. -/
def validate (c : Configuration) : Act σ Unit :=
  if Text.isBlankText c.expression then
    Act.fail (.configuration "requires-python constraint is not defined (use --requires-python)")
  else if c.timeout.isAtMostZero then
    Act.fail (.configuration "Timeout must be a positive number of seconds")
  else if c.retries < 0 then
    Act.fail (.configuration "Max retries must not be negative")
  else if !outputFormats.contains c.outputFormat then
    Act.fail (.configuration ("Invalid output format '" ++ c.outputFormat ++ "'. Use one of: " ++
      Text.listed outputFormats))
  else if !logLevels.contains (Text.uppercase c.logLevel) then
    Act.fail (.configuration ("Invalid log level '" ++ c.logLevel ++ "'. Use one of: " ++
      Text.listed logLevels))
  else if c.offline then return ()
  else checkAddress c.address

/-- Whether a text says yes. -/
def saysYes (text : String) : Bool :=
  ["true", "yes", "yeah", "1"].contains (Text.lowercase text)

/-- What is given for a configuration; what is missing is filled in. -/
structure Choices where
  expression : Option String := none
  address : Option String := none
  timeout : Option Timeout := none
  retries : Option Int := none
  offline : Option Bool := none
  outputFormat : Option String := none
  logLevel : Option String := none

/-- The variables that a configuration takes from its surroundings. -/
structure Variables where
  offline : Option String
  outputPath : Option String

/-- A text, or the default where it is missing or empty. -/
def filled (text : Option String) (default : String) : String :=
  (text.filter (· != "")).getD default

/-- The configuration that choices and variables make, before it is checked. -/
def assemble (choices : Choices) (found : Variables) : Configuration where
  expression := Text.trimmed (choices.expression.getD "")
  address := filled choices.address Feed.defaultAddress
  timeout := choices.timeout.getD Feed.defaultTimeout
  retries := choices.retries.getD Feed.defaultRetries
  offline := choices.offline.getD (saysYes (found.offline.getD "false"))
  outputFormat := Text.lowercase (filled choices.outputFormat "json")
  logLevel := Text.uppercase (filled choices.logLevel "INFO")
  outputPath := found.outputPath

/-- The configuration that choices and variables make. -/
def make (choices : Choices) (found : Variables) : Act σ Configuration := do
  let configuration := assemble choices found
  configuration.validate
  return configuration

end Configuration

end ReleaseLines
