import ReleaseLines.Proofs.CommandLine.Refusal
import ReleaseLines.Proofs.CommandLine.Start
import ReleaseLines.Proofs.Configuration.Checks
import ReleaseLines.Proofs.Output.Failure
import Mathlib.Data.List.Permutation

namespace ReleaseLines

open Act CommandLine Text

namespace CommandLine

theorem titleOf_of_isRejection {fault : Fault} (h : fault.IsRejection) :
    ∃ title, titleOf fault = some title ∧ title ≠ "" ∧ IsUnbroken title := by
  unfold titleOf
  split
  · exact ⟨_, rfl, by decide, by decide⟩
  next hconstraint =>
    have hmatch : fault.isA .noMatch = true := h.resolve_left hconstraint
    rw [hmatch]
    exact ⟨_, rfl, by decide, by decide⟩

theorem event_of_title {title : String} (h : title ≠ "") (message : String) :
    (⟨.error, message, some title⟩ : Annotation).event .workflow =
      .printed ("::error title=" ++ title ++ "::" ++ message ++ "\n") := by
  have htitle : (⟨.error, message, some title⟩ : Annotation).title? = some title := by
    have hkept : (some title).filter (· != "") = some title := by simp [h]
    exact hkept
  show Event.printed ((⟨.error, message, some title⟩ : Annotation).command ++ "\n") = _
  unfold Annotation.command
  rw [htitle]
  rfl

/-- A run that rejects its expression shows one annotation, and the program fails. -/
theorem runConfigured_of_rejection {around : Surroundings} {c : Configuration} {host : Host}
    {fault : Fault} {title : String} (hretries : 0 ≤ c.retries)
    (hrun : (c.run around.setting none host).result = .error fault)
    (hrejection : fault.IsRejection) (htitle : titleOf fault = some title) :
    (runConfigured around c host).result = .ok .failure ∧
      Event.displays (runConfigured around c host).events =
        Event.displays
          [(⟨.error, fault.message, some title⟩ : Annotation).event around.setting] := by
  obtain ⟨hhidden, _⟩ := Configuration.rejection_of_run hretries hrun hrejection
  simp only [runConfigured, Act.either, hrun, htitle, complain_apply]
  exact ⟨trivial, Event.displays_append_of_hidden hhidden _⟩

/-- As a step of a workflow the program makes a configuration of its arguments, and the run with it
rejects the expression. -/
structure Rejects (around : Surroundings) (arguments : List String) (host : Host)
    (c : Configuration) (fault : Fault) : Prop where
  setting : around.setting = .workflow
  made : ∃ choices, interpret around .program arguments = .ok ([], .choices choices) ∧
    (Configuration.make choices around.configurationVariables host).result = .ok c
  run : (c.run .workflow none host).result = .error fault
  rejection : fault.IsRejection

variable {around : Surroundings} {arguments : List String} {host : Host} {c : Configuration}
  {fault : Fault}

theorem displays_of_rejects (h : Rejects around arguments host c fault) :
    ∃ title, titleOf fault = some title ∧ IsUnbroken title ∧
      (runProgram around arguments host).result = .ok .failure ∧
      Event.displays (runProgram around arguments host).events =
        [.text ("::error title=" ++ title ++ "::" ++ fault.message ++ "\n")] := by
  obtain ⟨hsetting, ⟨choices, hinterpret, hmake⟩, hrun, hrejection⟩ := h
  obtain ⟨hc, hsound, _⟩ := Configuration.make_result_eq_ok_iff.mp hmake
  have hexpression : HasExpression choices := by
    have hblank := hsound.expression
    rw [hc] at hblank
    exact isBlankText_of_trimmed hblank
  obtain ⟨title, htitle, hne, hunbroken⟩ := titleOf_of_isRejection hrejection
  rw [← hsetting] at hrun
  obtain ⟨hresult, hdisplays⟩ := runConfigured_of_rejection hsound.retries hrun hrejection htitle
  rw [hsetting, event_of_title hne] at hdisplays
  -- making the configuration leaves the host alone, so the run starts from the same one
  have hnoted : Noted (Configuration.make choices around.configurationVariables :
      Act Host Configuration) := Configuration.noted_make _ _
  have hchoices : runChoices around choices host =
      (runConfigured around c host).after
        (Configuration.make choices around.configurationVariables host).events := by
    rw [runChoices_of_hasExpression hexpression, Act.either, hmake, hnoted.isLocal.state_eq]
    rfl
  rw [runProgram_of_interpret hinterpret, hchoices, Outcome.after_after]
  refine ⟨title, htitle, hunbroken, hresult, ?_⟩
  rw [Outcome.after, List.append_assoc, displays_thresholds,
    Event.displays_append_of_hidden (hnoted.hidden host).2, hdisplays]
  rfl

/-- A rejected expression is announced by one annotation and nothing else. This is one line unless
what it quotes of the expression has a line break in it. -/
theorem announcement_of_rejects (h : Rejects around arguments host c fault) :
    ∃ title, titleOf fault = some title ∧
      (runProgram around arguments host).result = .ok .failure ∧
      Event.displays (runProgram around arguments host).events =
        [.text ("::error title=" ++ title ++ "::" ++ fault.message ++ "\n")] ∧
      ∀ ends, IsLineEnding ends →
        (IsOneLine ends ("::error title=" ++ title ++ "::" ++ fault.message ++ "\n") ↔
          ∀ character ∈ fault.quotation.toList, ends character = false) ∧
        ((∀ character ∈ c.expression.toList, ends character = false) →
          IsOneLine ends ("::error title=" ++ title ++ "::" ++ fault.message ++ "\n")) := by
  obtain ⟨title, htitle, hunbroken, hresult, hdisplays⟩ := displays_of_rejects h
  obtain ⟨choices, _, hmake⟩ := h.made
  obtain ⟨_, hsound, _⟩ := Configuration.make_result_eq_ok_iff.mp hmake
  obtain ⟨_, hfault⟩ := Configuration.rejection_of_run hsound.retries h.run h.rejection
  obtain ⟨hquoted, before, after, hbefore, hafter, hmessage⟩ := h.rejection.exists_message hfault
  refine ⟨title, htitle, hresult, hdisplays, fun ends hends => ?_⟩
  have hopening : IsUnbroken "::error title=" := by decide
  have hhead : IsUnbroken ("::error title=" ++ title ++ "::" ++ before) :=
    ((hopening.append hunbroken).append (by decide)).append hbefore
  have htext : "::error title=" ++ title ++ "::" ++ fault.message =
      "::error title=" ++ title ++ "::" ++ before ++ fault.quotation ++ after := by
    simp only [hmessage, String.append_assoc]
  have hiff : IsOneLine ends ("::error title=" ++ title ++ "::" ++ fault.message ++ "\n") ↔
      ∀ character ∈ fault.quotation.toList, ends character = false := by
    rw [isOneLine_append_newline_iff, htext, hends.forall_append_iff hhead hafter]
  exact ⟨hiff, fun hplain => hiff.mpr fun character hc => hplain character (hquoted character hc)⟩

theorem interpret_expression (setting : Setting) (expression : String) :
    interpret ⟨[], setting, .bare⟩ .program ["-r", expression] =
      .ok ([], .choices { expression := some expression }) := by
  have hread : readArguments programOptions false ["-r", expression] =
      .ok ⟨[(.expression, .text expression)], []⟩ := by
    have hoption : readOption programOptions "-r" [expression] =
        .ok ([(.expression, .text expression)], []) := rfl
    rw [readArguments, if_neg (by decide), if_pos (by decide)]
    split
    next complaint hcomplaint =>
      rw [hoption] at hcomplaint
      cases hcomplaint
    next given after hgiven =>
      rw [hoption] at hgiven
      cases hgiven
      rw [readArguments]
      rfl
  have horder : Reading.schedule ⟨[(.expression, .text expression)], []⟩ Parameter.ofProgram =
      [.version, .help, .expression, .address, .timeout, .retries, .offline, .format,
        .logLevel] := by
    cbv
  exact interpret_of_read .program hread horder rfl

theorem rejects_of_read {expression : String} (hblank : isBlankText expression = false)
    (htrimmed : trimmed expression = expression) (hread : Expression.read expression = .error fault)
    (hrejection : fault.IsRejection) :
    Rejects ⟨[], .workflow, .bare⟩ ["-r", expression] ⟨.unconnected, []⟩ { expression }
      fault := by
  have hretries : (0 : Int) ≤ Feed.defaultRetries := by decide
  have hformat : "json" ∈ Configuration.outputFormats := by decide
  have hlevel : uppercase "INFO" ∈ Configuration.logLevels := by decide +kernel
  have hmake : (Configuration.make { expression := some expression } ⟨none, none⟩
      (⟨.unconnected, []⟩ : Host)).result = .ok { expression } := by
    rw [Configuration.make_result_eq_ok_iff]
    refine ⟨?_, ⟨hblank, rfl, hretries, hformat, hlevel⟩, ?_⟩
    · have hoffline : Configuration.saysYes "false" = false := by decide +kernel
      have hlower : lowercase "json" = "json" := by decide +kernel
      have hupper : uppercase "INFO" = "INFO" := by decide +kernel
      show _ = Configuration.mk (trimmed expression) Feed.defaultAddress Feed.defaultTimeout
        Feed.defaultRetries (Configuration.saysYes "false") (lowercase "json")
        (uppercase "INFO") none
      rw [htrimmed, hoffline, hlower, hupper]
    · have hdefault : Address.read Feed.defaultAddress = .ok ⟨"https", "endoflife.date"⟩ := by
        decide +kernel
      exact .inr ⟨_, hdefault, .inr rfl, by decide⟩
  refine ⟨rfl, ⟨_, interpret_expression .workflow expression, hmake⟩, ?_, hrejection⟩
  rw [Configuration.run_of_read_eq_error hretries hread]

theorem announcement_of_missing_minor :
    (runProgram ⟨[], .workflow, .bare⟩ ["-r", ">=3"] ⟨.unconnected, []⟩).result =
        .ok .failure ∧
      ∃ text, Event.displays
        (runProgram ⟨[], .workflow, .bare⟩ ["-r", ">=3"] ⟨.unconnected, []⟩).events =
          [.text text] ∧
        IsOneLine (· == '\n') text := by
  have hread : Expression.read ">=3" =
      .error (.malformedConstraint ">=3" "expected major.minor") := by
    decide +kernel
  have hends : IsLineEnding (· == '\n') := ⟨rfl, fun c hc => beq_iff_eq.mp hc ▸ rfl⟩
  obtain ⟨title, _, hresult, hdisplays, hline⟩ :=
    announcement_of_rejects (rejects_of_read (by decide) (by decide) hread (.inl rfl))
  have hquoted : ∀ c ∈ ">=3".toList, (c == '\n') = false :=
    List.forall_mem_cons.mpr ⟨rfl, List.forall_mem_cons.mpr ⟨rfl, List.forall_mem_singleton.mpr rfl⟩⟩
  exact ⟨hresult, _, hdisplays, (hline _ hends).1.mpr hquoted⟩

/-- A line break in a constraint that is malformed goes into the annotation, which then is not of
one line. -/
theorem not_always_isOneLine_of_rejects :
    ¬∀ (around : Surroundings) (arguments : List String) (host : Host) (c : Configuration)
      (fault : Fault), Rejects around arguments host c fault →
        ∃ text, Event.displays (runProgram around arguments host).events = [.text text] ∧
          IsOneLine (· == '\n') text := by
  intro hall
  have hread : Expression.read ">=3.9\n::stop-commands::x" =
      .error (.malformedConstraint ">=3.9\n::stop-commands::x"
        "unexpected trailing characters") := by
    decide +kernel
  have hrejects := rejects_of_read (by decide) (by decide) hread (.inl rfl)
  obtain ⟨title, _, _, _, hdisplays⟩ := displays_of_rejects hrejects
  obtain ⟨text, htext, hline⟩ := hall _ _ _ _ _ hrejects
  cases hdisplays.symm.trans htext
  have hmem : '\n' ∈ ("::error title=" ++ title ++ "::" ++
      (Fault.malformedConstraint ">=3.9\n::stop-commands::x"
        "unexpected trailing characters").message).toList := by
    rw [String.toList_append]
    exact List.mem_append_right _ (by decide +kernel)
  exact absurd (isOneLine_append_newline_iff.mp hline '\n' hmem) (by decide)

end CommandLine

end ReleaseLines
