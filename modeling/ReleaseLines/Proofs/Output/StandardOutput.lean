import ReleaseLines.Proofs.Matrix.Ended
import ReleaseLines.Proofs.Output.Publication

namespace ReleaseLines

open Act

namespace Output

theorem hidden_write (path : String) (matrix : SupportMatrix) : Hidden (write path matrix) := by
  unfold write
  apply Keeps.bind (.ask _)
  intro name
  cases name with
  | error problem => exact .fail _
  | ok name => exact .bind (.modify fun _ => rfl) fun _ => Hidden.log _ _

/-- In a format for machines the lines are printed, and nothing is shown after them. -/
theorem exists_events_post {c : Configuration} (hformat : c.outputFormat ≠ "text")
    (matrix : SupportMatrix) (host : Host) :
    ∃ rest, (post c matrix host).events = .printed (matrix.versionsText ++ "\n") :: rest ∧
      ∀ event ∈ rest, event.IsHidden := by
  have hprint : ((Act.print matrix.versionsText : Act Host Unit) host).result = .ok () := rfl
  rw [post, if_neg (by simpa using hformat)]
  rw [Act.bind_apply_of_ok hprint]
  refine ⟨_, rfl, ?_⟩
  split
  · split
    next path _ => exact (hidden_write path matrix host.files).2
    · exact (Hidden.log _ _ host).2
  · exact fun _ => List.not_mem_nil.elim

/-- What appears where the remark on the built-in list stands before a line. -/
def remarkedLine (line : String) : Setting → List Display
  | .workflow => [.text (fallbackRemark.command ++ "\n" ++ (line ++ "\n"))]
  | .terminal => [.markup fallbackRemark.markup, .text (line ++ "\n")]

theorem remarkedLine_ne (line : String) (setting : Setting) :
    remarkedLine line setting ≠ [.text (line ++ "\n")] := by
  cases setting with
  | workflow => simp [remarkedLine]
  | terminal => simp [remarkedLine]

end Output

namespace Configuration

variable {c : Configuration} {setting : Setting} {client : Option Feed.Client} {host : Host}
  {matrix : SupportMatrix}

theorem displays_remarks (hformat : c.outputFormat ≠ "text") (setting : Setting)
    (matrix : SupportMatrix) (host : Host) :
    Event.displays (c.remarks setting matrix ++ (Output.post c matrix host).events) =
      if matrix.usedFallback && !c.offline then Output.remarkedLine matrix.versionsText setting
      else [.text (matrix.versionsText ++ "\n")] := by
  obtain ⟨rest, hevents, hrest⟩ := Output.exists_events_post hformat matrix host
  have hnone : Event.displays rest = [] := Event.displays_of_hidden hrest
  rw [hevents, remarks]
  split
  · cases setting with
    | workflow => simp [Event.displays, hnone, Output.remarkedLine, Annotation.event]
    | terminal => simp [Event.displays, hnone, Output.remarkedLine, Annotation.event]
  · simp [Event.displays, hnone]

theorem displays_run (hformat : c.outputFormat ≠ "text")
    (h : (c.run setting client host).result = .ok matrix) :
    Event.displays (c.run setting client host).events =
      if matrix.usedFallback && !c.offline then Output.remarkedLine matrix.versionsText setting
      else [.text (matrix.versionsText ++ "\n")] := by
  obtain ⟨own, start, made, _, hmade, hrun, heq⟩ := exists_of_run h
  obtain ⟨_, _, _, hevents⟩ := runWith_cases hrun
  have hbuilt : ∀ event ∈ (c.built own start.desk).events, event.IsHidden :=
    (SupportMatrix.hidden_build c.expression own c.offline start.desk).2
  have hshown : (c.run setting client host).events =
      made ++ (c.runWith setting own start).events := by
    rw [heq]
    rfl
  rw [hshown, Event.displays_append_of_hidden hmade, hevents,
    Event.displays_append_of_hidden hbuilt]
  exact displays_remarks hformat setting matrix _

/-- In a format for machines standard output is one line that reads back as the lines of the matrix,
if and only if the built-in list was not used or was asked for. Where the feed could not be used, a
remark on that stands before the line. -/
theorem standardOutput_of_run (hformat : c.outputFormat = "json" ∨ c.outputFormat = "github")
    (h : (c.run setting client host).result = .ok matrix) :
    '\n' ∉ matrix.versionsText.toList ∧
      Json.read? matrix.versionsText = some (Json.texts matrix.versions) ∧
      (Event.displays (c.run setting client host).events =
          [.text (matrix.versionsText ++ "\n")] ↔
        matrix.usedFallback = false ∨ c.offline = true) ∧
      (matrix.usedFallback = true → c.offline = false →
        Event.displays (c.run setting client host).events =
          Output.remarkedLine matrix.versionsText setting) := by
  have hreads := Json.readsBack_texts matrix.versions
  have hnotText : c.outputFormat ≠ "text" := by
    rcases hformat with hformat | hformat
    · simp [hformat]
    · simp [hformat]
  have hdisplays := displays_run hnotText h
  refine ⟨Output.not_mem_newline hreads, hreads.read?_write, ?_, ?_⟩
  · rw [hdisplays]
    cases matrix.usedFallback with
    | false => simp
    | true =>
      cases c.offline with
      | true => simp
      | false => simpa using Output.remarkedLine_ne matrix.versionsText setting
  · intro hused honline
    rw [hdisplays, hused, honline]
    rfl

/-- The configuration of a run of which nothing but the expression is chosen. -/
def ofExpression (expression : String) : Configuration where
  expression

theorem run_of_ended_line (setting : Setting) :
    ((ofExpression ">=3.9").run setting (some Feed.Client.standard)
      ⟨.publishing [.obj [("cycle", .str "3.9"), ("eol", .bool true)]], []⟩).result =
      .ok ⟨Feed.fallbackLines, ">=3.9", SupportMatrix.fallbackSource, Feed.fallbackLines⟩ :=
  run_result Feed.build_of_ended_line rfl

theorem standardOutput_of_listed_and_ended_lines :
    Event.displays ((publishing "out.txt").run .workflow (some Feed.Client.standard)
        ⟨.publishing [.obj [("cycle", .str "3.12")]], []⟩).events =
      [.text "[\"3.12\"]\n"] ∧
    Event.displays ((ofExpression ">=3.9").run .terminal (some Feed.Client.standard)
        ⟨.publishing [.obj [("cycle", .str "3.9"), ("eol", .bool true)]], []⟩).events =
      [.markup Output.fallbackRemark.markup,
        .text "[\"3.9\", \"3.10\", \"3.11\", \"3.12\", \"3.13\", \"3.14\"]\n"] := by
  have hlisted : ((publishing "out.txt").run .workflow (some Feed.Client.standard)
      ⟨.publishing [.obj [("cycle", .str "3.12")]], []⟩).result =
        .ok ⟨["3.12"], ">=3.9", SupportMatrix.feedSource, ["3.12"]⟩ :=
    run_publishing .workflow (show Version.read _ = .ok ⟨3, 12⟩ from rfl) rfl rfl
  constructor
  · exact (standardOutput_of_run (.inr rfl) hlisted).2.2.1.mpr (.inl (by decide))
  · exact (standardOutput_of_run (.inl rfl) (run_of_ended_line .terminal)).2.2.2 (by decide) rfl

/-- A script that reads all of standard output may find a command to the workflow before the line. -/
theorem not_always_standardOutput_of_run :
    ¬∀ (c : Configuration) (setting : Setting) (client : Option Feed.Client) (host : Host)
      (matrix : SupportMatrix), c.outputFormat = "json" ∨ c.outputFormat = "github" →
      (c.run setting client host).result = .ok matrix →
      Event.displays (c.run setting client host).events =
        [.text (matrix.versionsText ++ "\n")] := by
  intro h
  have hline := h _ .workflow _ _ _ (.inl rfl) (run_of_ended_line .workflow)
  have hremarked := displays_run (by decide) (run_of_ended_line .workflow)
  rw [hline] at hremarked
  exact Output.remarkedLine_ne _ .workflow hremarked.symm

end Configuration

end ReleaseLines
