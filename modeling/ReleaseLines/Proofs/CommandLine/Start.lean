import ReleaseLines.CommandLine.Program
import ReleaseLines.Proofs.Act.Keeps
import ReleaseLines.Proofs.Except

namespace ReleaseLines.CommandLine

open Act

/-- A log level, if one is chosen, that the program knows. -/
def KnownLevel (choices : Configuration.Choices) : Prop :=
  ∀ name ∈ choices.logLevel, name ∈ Configuration.logLevels

theorem knownLevel_of_read {parameter : Parameter} {value : Given}
    {choices next : Configuration.Choices} (h : parameter.read value choices = .ok next)
    (hknown : KnownLevel choices) : KnownLevel next := by
  unfold Parameter.read at h
  split at h
  case h_6 value =>
    split at h
    next word hword =>
      obtain rfl := Except.ok.inj h
      intro name hname
      obtain rfl := Option.mem_some.mp hname
      exact List.mem_of_find?_eq_some hword
    next => cases h
  case h_3 | h_4 | h_5 =>
    split at h
    next => obtain rfl := Except.ok.inj h; exact hknown
    next => cases h
  all_goals
    obtain rfl := Except.ok.inj h
    exact hknown

theorem knownLevel_of_answer {around : Surroundings} {command : Command} {reading : Reading}
    {parameters : List Parameter} {choices chosen : Configuration.Choices}
    (h : answer around command reading parameters choices = .ok (.choices chosen))
    (hknown : KnownLevel choices) : KnownLevel chosen := by
  induction parameters generalizing choices with
  | nil =>
    rw [answer] at h
    cases h
    exact hknown
  | cons parameter rest ih =>
    unfold answer at h
    split at h
    · exact ih h hknown
    · cases h
    · cases h
    · split at h
      next => cases h
      next next hread => exact ih h (knownLevel_of_read hread hknown)

theorem knownLevel_of_interpret {around : Surroundings} {command : Command}
    {arguments words : List String} {choices : Configuration.Choices}
    (h : interpret around command arguments = .ok (words, .choices choices)) :
    KnownLevel choices := by
  obtain ⟨reading, _, h⟩ := except_bind_eq_ok_iff.mp h
  obtain ⟨answered, hanswer, h⟩ := except_bind_eq_ok_iff.mp h
  cases h
  exact knownLevel_of_answer hanswer fun name hname => Option.not_mem_none name hname |>.elim

theorem interpret_of_read {around : Surroundings} (command : Command) {arguments : List String}
    {reading : Reading} {order : List Parameter} {answered : Answer}
    (hread : readArguments command.options (command == .tools) arguments = .ok reading)
    (horder : reading.schedule command.parameters = order)
    (hanswer : answer around command reading order {} = .ok answered) :
    interpret around command arguments = .ok (reading.words, answered) := by
  rw [interpret, hread]
  show (answer around command reading (reading.schedule command.parameters) {} >>= _) = _
  rw [horder, hanswer]
  rfl

/-- What is seen when the log level that was chosen is set. -/
def thresholds (choices : Configuration.Choices) : List Event :=
  match choices.logLevel.bind fun name => Level.ofName? name with
  | some level => [.thresholdSet level]
  | none => []

theorem applyLogLevel_apply {σ : Type} (choices : Configuration.Choices) (state : σ) :
    applyLogLevel choices state = ⟨.ok (), state, thresholds choices⟩ := by
  unfold applyLogLevel thresholds
  generalize (choices.logLevel.bind fun name => Level.ofName? name) = chosen
  cases chosen with
  | some level => rfl
  | none => rfl

theorem displays_thresholds (choices : Configuration.Choices) (events : List Event) :
    Event.displays (thresholds choices ++ events) = Event.displays events := by
  unfold thresholds
  split
  · rfl
  · rfl

/-- Errors are let through at every level that can be chosen. -/
theorem exists_threshold {choices : Configuration.Choices} (hknown : KnownLevel choices)
    {threshold : Level} (h : Level.error.passes threshold = true) (events : List Event) :
    ∃ later, Level.error.passes later = true ∧
      Event.messages threshold (thresholds choices ++ events) = Event.messages later events := by
  unfold thresholds
  split
  next level hlevel =>
    obtain ⟨name, hname, hof⟩ := Option.bind_eq_some_iff.mp hlevel
    have hpasses : ∀ name ∈ Configuration.logLevels, ∀ level ∈ Level.ofName? name,
        Level.error.passes level = true := by decide
    exact ⟨level, hpasses name (hknown name hname) level hof, rfl⟩
  next => exact ⟨threshold, h, rfl⟩

/-- Without a command the program sets the log level and runs with the choices. -/
theorem runProgram_of_interpret {around : Surroundings} {arguments : List String}
    {choices : Configuration.Choices}
    (h : interpret around .program arguments = .ok ([], .choices choices)) (host : Host) :
    runProgram around arguments host =
      (runChoices around choices host).after (thresholds choices) := by
  rw [runProgram, h]
  show (applyLogLevel choices >>= fun _ => runChoices around choices) host = _
  rw [bind_apply_of_ok (by rw [applyLogLevel_apply]), applyLogLevel_apply]
  rfl

/-- Choices with an expression to resolve. -/
def HasExpression (choices : Configuration.Choices) : Prop :=
  Text.isBlankText (choices.expression.getD "") = false

/-- What a configuration or the failure to make one leads to. -/
def afterMaking (around : Surroundings) : Except Fault Configuration → Act Host Exit
  | .ok configuration => runConfigured around configuration
  | .error fault =>
    if fault.isA .configuration then do
      Act.log .error ("Configuration error: " ++ fault.message)
      return .failure
    else Act.fail fault

theorem runChoices_of_hasExpression {around : Surroundings} {choices : Configuration.Choices}
    (h : HasExpression choices) :
    runChoices around choices =
      (Configuration.make choices around.configurationVariables).either (afterMaking around) := by
  have hgiven : choices.expression.isNone = false := by
    cases hexpression : choices.expression with
    | none =>
      rw [HasExpression, hexpression] at h
      cases h
    | some expression => rfl
  rw [runChoices, hgiven, Bool.false_and, if_neg Bool.false_ne_true, h, if_neg Bool.false_ne_true]
  rfl

end ReleaseLines.CommandLine
