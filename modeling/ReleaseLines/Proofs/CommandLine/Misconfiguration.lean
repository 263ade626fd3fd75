import ReleaseLines.Proofs.CommandLine.Start
import ReleaseLines.Proofs.Configuration.Checks
import ReleaseLines.Proofs.Configuration.Readable
import Mathlib.Data.List.Permutation

namespace ReleaseLines

open Act CommandLine

namespace CommandLine

variable {around : Surroundings} {arguments : List String} {choices : Configuration.Choices}

/-- A reason against a configuration is all that the program logs before it fails. -/
theorem runProgram_of_refused (h : interpret around .program arguments = .ok ([], .choices choices))
    (hexpression : HasExpression choices) {host : Host} {reason : String}
    (hmake : Configuration.make choices around.configurationVariables host =
      ⟨.error (.configuration reason), host, []⟩) :
    runProgram around arguments host = ⟨.ok .failure, host,
      thresholds choices ++ [.logged .error ("Configuration error: " ++ reason)]⟩ := by
  rw [runProgram_of_interpret h, runChoices_of_hasExpression hexpression, Act.either, hmake]
  rfl

theorem runProgram_of_misread (h : interpret around .program arguments = .ok ([], .choices choices))
    (hexpression : HasExpression choices) {host : Host} {problem : BadValue}
    (hmake : Configuration.make choices around.configurationVariables host =
      ⟨.error (.badValue problem), host, []⟩) :
    runProgram around arguments host =
      ⟨.error (.badValue problem), host, thresholds choices⟩ := by
  rw [runProgram_of_interpret h, runChoices_of_hasExpression hexpression, Act.either, hmake]
  show (⟨_, _, thresholds choices ++ []⟩ : Outcome Host Exit) = _
  rw [List.append_nil]
  rfl

theorem messages_of_refused (hknown : KnownLevel choices) {threshold : Level}
    (h : Level.error.passes threshold = true) (message : String) :
    Event.messages threshold (thresholds choices ++ [.logged .error message]) =
      [(.error, message)] := by
  obtain ⟨later, hpasses, heq⟩ := exists_threshold hknown h [.logged .error message]
  rw [heq, Event.messages, if_pos hpasses]
  rfl

/-- The program logs a reason against its configuration and fails, and does nothing else. -/
structure FailsFor (around : Surroundings) (arguments : List String) (host : Host)
    (reason : String) : Prop where
  result : (runProgram around arguments host).result = .ok .failure
  state_eq : (runProgram around arguments host).state = host
  displays_eq : Event.displays (runProgram around arguments host).events = []
  messages_eq : ∀ threshold, Level.error.passes threshold = true →
    Event.messages threshold (runProgram around arguments host).events =
      [(.error, "Configuration error: " ++ reason)]

theorem failsFor_of_refused (h : interpret around .program arguments = .ok ([], .choices choices))
    (hexpression : HasExpression choices) {host : Host} {reason : String}
    (hmake : Configuration.make choices around.configurationVariables host =
      ⟨.error (.configuration reason), host, []⟩) :
    FailsFor around arguments host reason := by
  have hrun := runProgram_of_refused h hexpression hmake
  constructor
  · rw [hrun]
  · rw [hrun]
  · rw [hrun]
    exact displays_thresholds choices _
  · intro threshold hpasses
    rw [hrun]
    exact messages_of_refused (knownLevel_of_interpret h) hpasses _

end CommandLine

namespace Configuration

/-- A configuration, or a reason against it. -/
def IsMadeOrRefused (result : Except Fault Configuration) : Prop :=
  (∃ c, result = .ok c) ∨ ∃ reason, result = .error (.configuration reason)

theorem isMadeOrRefused_make_iff {σ : Type} (choices : Choices) (found : Variables) (state : σ) :
    IsMadeOrRefused (make choices found state).result ↔ ¬(assemble choices found).IsMisread := by
  rcases make_cases choices found state with
    ⟨_, hask, hmade⟩ | ⟨reason, _, hreadable, hrefused⟩ | ⟨problem, hmisread, _, hfailed⟩
  · exact iff_of_true (.inl ⟨_, hmade⟩) (not_isMisread_of_canAsk hask)
  · exact iff_of_true (.inr ⟨reason, by rw [hrefused]⟩) hreadable
  · refine iff_of_false ?_ (not_not_intro hmisread)
    rw [hfailed]
    rintro (⟨_, hmade⟩ | ⟨_, hreason⟩)
    · cases hmade
    · cases hreason

theorem not_isMisread_of_plain {c : Configuration}
    (h : ∀ character ∈ c.address.toList, Address.isDelicate character = false) : ¬c.IsMisread := by
  rintro ⟨_, _, problem, hproblem⟩
  obtain ⟨a, hread⟩ := Address.exists_read_of_plain h
  cases hread.symm.trans hproblem

/-- Choices make a configuration or are refused with a reason unless the address cannot be read,
which then has a bracket or a character that looks like a separator. The program logs the reason,
shows nothing and fails; an address that cannot be read ends it. -/
theorem isMadeOrRefused_unless_isMisread (choices : Choices) (found : Variables) :
    (∀ {σ : Type} (state : σ), IsMadeOrRefused (make choices found state).result ↔
      ¬(assemble choices found).IsMisread) ∧
    ((assemble choices found).IsMisread →
      ∃ c ∈ (assemble choices found).address.toList, Address.isDelicate c = true) ∧
    ∀ (around : Surroundings) (arguments : List String) (host : Host),
      around.configurationVariables = found →
      interpret around .program arguments = .ok ([], .choices choices) → HasExpression choices →
      (∀ reason, (make choices found host).result = .error (.configuration reason) →
        FailsFor around arguments host reason) ∧
      ((assemble choices found).IsMisread → ∃ problem,
        Address.read (assemble choices found).address = .error problem ∧
        (runProgram around arguments host).result = .error (.badValue problem)) := by
  refine ⟨isMadeOrRefused_make_iff choices found, ?_, ?_⟩
  · intro hmisread
    by_contra hnone
    push Not at hnone
    exact not_isMisread_of_plain (fun c hc => Bool.eq_false_iff.mpr (hnone c hc)) hmisread
  rintro around arguments host rfl hinterpret hexpression
  rcases make_cases choices around.configurationVariables host with
    ⟨_, hask, hmade⟩ | ⟨reason, _, hreadable, hrefused⟩ | ⟨problem, hmisread, hread, hfailed⟩
  · refine ⟨?_, fun hmisread => absurd hmisread (not_isMisread_of_canAsk hask)⟩
    intro reason hreason
    cases hmade.symm.trans hreason
  · refine ⟨?_, fun hmisread => absurd hmisread hreadable⟩
    intro other hother
    rw [hrefused] at hother
    cases hother
    exact failsFor_of_refused hinterpret hexpression hrefused
  · refine ⟨?_, fun _ => ⟨problem, hread, ?_⟩⟩
    · intro reason hreason
      rw [hfailed] at hreason
      cases hreason
    · rw [runProgram_of_misread hinterpret hexpression hfailed]

theorem runProgram_of_no_time_and_of_open_bracket :
    (runProgram ⟨[], .terminal, .bare⟩ ["-r", ">=3.9", "--timeout", "0"]
        ⟨.unconnected, []⟩).result = .ok .failure ∧
      Event.messages .info (runProgram ⟨[], .terminal, .bare⟩
        ["-r", ">=3.9", "--timeout", "0"] ⟨.unconnected, []⟩).events =
          [(.error, "Configuration error: Timeout must be a positive number of seconds")] ∧
      (runProgram ⟨[], .terminal, .bare⟩ ["-r", ">=3.9", "--feed-url", "http://[::1"]
        ⟨.unconnected, []⟩).result = .error (.badValue .misplacedBracket) := by
  have htimeless : interpret ⟨[], .terminal, .bare⟩ .program
      ["-r", ">=3.9", "--timeout", "0"] =
        .ok ([], .choices { expression := some ">=3.9",
                            timeout := some (.real (.finite false 0 (-1074))) }) := by
    have hread : readArguments programOptions false ["-r", ">=3.9", "--timeout", "0"] =
        .ok ⟨[(.expression, .text ">=3.9"), (.timeout, .text "0")], []⟩ := by
      decide +kernel
    have horder : Reading.schedule ⟨[(.expression, .text ">=3.9"), (.timeout, .text "0")], []⟩
        Parameter.ofProgram = [.version, .help, .expression, .timeout, .address, .retries,
          .offline, .format, .logLevel] := by
      cbv
    exact interpret_of_read .program hread horder rfl
  have hopen : interpret ⟨[], .terminal, .bare⟩ .program
      ["-r", ">=3.9", "--feed-url", "http://[::1"] =
        .ok ([], .choices { expression := some ">=3.9", address := some "http://[::1" }) := by
    have hread : readArguments programOptions false
        ["-r", ">=3.9", "--feed-url", "http://[::1"] =
          .ok ⟨[(.expression, .text ">=3.9"), (.address, .text "http://[::1")], []⟩ := by
      decide +kernel
    have horder : Reading.schedule
        ⟨[(.expression, .text ">=3.9"), (.address, .text "http://[::1")], []⟩
        Parameter.ofProgram = [.version, .help, .expression, .address, .timeout, .retries,
          .offline, .format, .logLevel] := by
      cbv
    exact interpret_of_read .program hread horder rfl
  obtain ⟨_, _, hrun⟩ := isMadeOrRefused_unless_isMisread
    { expression := some ">=3.9", timeout := some (.real (.finite false 0 (-1074))) } ⟨none, none⟩
  obtain ⟨_, _, hrun'⟩ := isMadeOrRefused_unless_isMisread
    { expression := some ">=3.9", address := some "http://[::1" } ⟨none, none⟩
  have hfails := (hrun _ _ ⟨.unconnected, []⟩ rfl htimeless rfl).1 _ (by rfl)
  have hmisread : (assemble { expression := some ">=3.9", address := some "http://[::1" }
      ⟨none, none⟩).IsMisread := by
    refine ⟨⟨by decide, by decide, by decide, by decide, ?_⟩, by decide, .misplacedBracket, ?_⟩
    · decide +kernel
    · decide +kernel
  obtain ⟨problem, hproblem, hended⟩ :=
    (hrun' _ _ ⟨.unconnected, []⟩ rfl hopen rfl).2 hmisread
  have hbracket : Address.read "http://[::1" = .error .misplacedBracket := by
    decide +kernel
  cases hbracket.symm.trans hproblem
  exact ⟨hfails.result, hfails.messages_eq .info rfl, hended⟩

/-- An address with a bracket left open is neither taken nor refused. -/
theorem not_always_isMadeOrRefused :
    ¬∀ (choices : Choices) (found : Variables),
      IsMadeOrRefused (make choices found ()).result := by
  intro hall
  have hfailed : (make { expression := some ">=3.9", address := some "http://[::1" }
      ⟨none, none⟩ ()).result = .error (.badValue .misplacedBracket) := by
    decide +kernel
  rcases hfailed ▸ hall _ _ with ⟨_, hmade⟩ | ⟨_, hreason⟩
  · cases hmade
  · cases hreason

end Configuration

end ReleaseLines
