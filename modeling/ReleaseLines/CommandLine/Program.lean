import ReleaseLines.CommandLine.Command
import ReleaseLines.Interpreter.Check
import ReleaseLines.Output.Run
import ReleaseLines.Package
import ReleaseLines.Text.Alphanumeric

namespace ReleaseLines.CommandLine

variable {σ : Type}

/-- What surrounds the program and does not change while it runs. -/
structure Surroundings where
  /-- The variables of the environment; empty ones are still set. -/
  environment : List (String × String)
  setting : Setting
  machine : Machine

namespace Surroundings

def lookup? (around : Surroundings) (name : String) : Option String :=
  around.environment.lookup name

/-- The variables that a configuration takes from the environment. -/
def configurationVariables (around : Surroundings) : Configuration.Variables where
  offline := around.lookup? "OFFLINE"
  outputPath := around.lookup? "GITHUB_OUTPUT"

end Surroundings

/-- What the answering of parameters comes to: choices to go on with, or a text to print before the
program ends. -/
inductive Answer
  | choices (choices : Configuration.Choices)
  | text (text : String)

/-- The value of a parameter: that on the command line, or that of its variable if it is not
empty. -/
def valueOf (around : Surroundings) (reading : Reading) (parameter : Parameter) : Option Given :=
  match reading.value? parameter with
  | some value => some value
  | none =>
    ((parameter.source?.bind around.lookup?).filter (· != "")).map Given.text

/-- Answers parameters in order. A version or help that is asked for ends this. -/
def answer (around : Surroundings) (command : Command) (reading : Reading) :
    List Parameter → Configuration.Choices → Except Complaint Answer
  | [], choices => .ok (.choices choices)
  | parameter :: rest, choices =>
    match parameter, valueOf around reading parameter with
    | _, none => answer around command reading rest choices
    | .version, some _ => .ok (.text (Command.program.name ++ " " ++ Package.version))
    | .help, some _ => .ok (.text command.help)
    | _, some value =>
      match parameter.read value choices with
      | .error reason => .error (.badValue parameter reason)
      | .ok choices => answer around command reading rest choices

/-- Reads the arguments of a command and answers its parameters: the words that are left, and what
the parameters come to. -/
def interpret (around : Surroundings) (command : Command) (arguments : List String) :
    Except Complaint (List String × Answer) := do
  let reading ← readArguments command.options (command == .tools) arguments
  let answered ← answer around command reading (reading.schedule command.parameters) {}
  return (reading.words, answered)

/-- Sets the log level that was chosen, if any. -/
def applyLogLevel (choices : Configuration.Choices) : Act σ Unit :=
  match (choices.logLevel.bind fun name => Level.ofName? name) with
  | some level => Act.emit (.thresholdSet level)
  | none => return ()

/-- Says what is wrong and fails. -/
def complain (around : Surroundings) (title : String) (fault : Fault) : Act σ Exit := do
  (⟨.error, fault.message, some title⟩ : Annotation).post around.setting
  return .failure

/-- The heading over a fault of a run. -/
def titleOf (fault : Fault) : Option String :=
  if fault.isA .constraint then some "Invalid requires-python"
  else if fault.isA .noMatch || fault.isA .noCandidates then some "No Python versions"
  else if fault.isA .general then some "Support matrix failed"
  else none

/-- Runs with a configuration. A fault of this library's own is shown; others end the program. -/
def runConfigured (around : Surroundings) (configuration : Configuration) : Act Host Exit :=
  (configuration.run around.setting none).either fun
    | .ok _ => return .success
    | .error fault =>
      match titleOf fault with
      | some title => complain around title fault
      | none => Act.fail fault

/-- Makes a configuration of the choices and runs with it. -/
def runChoices (around : Surroundings) (choices : Configuration.Choices) : Act Host Exit :=
  if choices.expression.isNone && (around.lookup? "REQUIRES_PYTHON").isNone then do
    Act.print Command.program.help
    return .success
  else if Text.isBlankText (choices.expression.getD "") then
    complain around "Invalid requires-python" .emptyRequirement
  else
    (Configuration.make choices around.configurationVariables).either fun
      | .ok configuration => runConfigured around configuration
      | .error fault =>
        if fault.isA .configuration then do
          Act.log .error ("Configuration error: " ++ fault.message)
          return .failure
        else Act.fail fault

/-- The lines to look for where none is given: those that are supported, or those to fall back on
when offline or when asking fails. -/
def linesToCheck (offline : Bool) : Act Feed.Desk (List String) := do
  let client ← Feed.Client.prepareStandard
  if offline then return Feed.fallbackLines
  else
    let lines : Act Feed.Desk (List String) := do
      let lines ← client.supported Feed.oldestLine
      Act.ofValue (sortLines lines)
    lines.either fun
      | .ok lines => return lines
      | .error fault =>
        if fault.isA .general then do
          Act.log .warning ("Could not fetch Python EOL data, using fallback versions: " ++
            fault.message)
          return Feed.fallbackLines
        else Act.fail fault

/-- Looks for interpreters and shows what is found. -/
def checkInterpreters (around : Surroundings) (lines : List String) : Act σ Unit :=
  grouped around.setting "Local Python interpreters" do
    let found ← Interpreter.detect around.machine lines
    Act.emit (.tabulated (Interpreter.table found))
    Interpreter.report found

/-- The command that looks for interpreters. -/
def runTools (around : Surroundings) (words : List String) (offline : Option Bool) :
    Act Host Exit := do
  let lines ←
    if words.isEmpty then
      Host.atDesk (linesToCheck
        (offline.getD (Configuration.saysYes ((around.lookup? "OFFLINE").getD "false"))))
    else pure words
  checkInterpreters around lines
  return .success

/-- Reads the arguments of the command that looks for interpreters and runs it. -/
def startTools (around : Surroundings) (arguments : List String) : Act Host Exit :=
  match interpret around .tools arguments with
  | .error complaint => return .ofComplaint .tools complaint
  | .ok (_, .text text) => do
    Act.print text
    return .success
  | .ok (words, .choices choices) => runTools around words choices.offline

/-- Refuses a word that names no command. If it begins with neither a letter nor a digit, what is
left of the command line is first read once more as one of its own: a question for help in it is
answered, and the variables stand in for the options that came before. -/
def refuseCommand (around : Surroundings) (word : String) (arguments : List String) :
    Act Host Exit :=
  let close := Text.closeWords Command.words word
  let refusal := Exit.ofComplaint .program (.unknownCommand word close)
  if word.toList.head?.all Text.isAlphanumeric then return refusal
  else
    match interpret around .program arguments with
    | .error complaint => return .ofComplaint .program complaint
    | .ok (_, .text text) => do
      Act.print text
      return .success
    | .ok (_, .choices _) => return refusal

/-- Runs the program with its arguments. -/
def runProgram (around : Surroundings) (arguments : List String) : Act Host Exit :=
  match interpret around .program arguments with
  | .error complaint => return .ofComplaint .program complaint
  | .ok (_, .text text) => do
    Act.print text
    return .success
  | .ok ([], .choices choices) => do
    applyLogLevel choices
    runChoices around choices
  | .ok (word :: rest, .choices choices) =>
    if Command.words.contains word then do
      applyLogLevel choices
      startTools around rest
    else refuseCommand around word (word :: rest)

end ReleaseLines.CommandLine
