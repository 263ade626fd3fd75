import ReleaseLines.CommandLine.Program
import ReleaseLines.Proofs.Constraint.Answer
import ReleaseLines.Proofs.Output.Run

namespace ReleaseLines

variable {c : Configuration} {fault : Fault}

namespace CommandLine

theorem complain_apply {σ : Type} (around : Surroundings) (title : String) (fault : Fault)
    (state : σ) :
    complain around title fault state =
      ⟨.ok .failure, state,
        [(⟨.error, fault.message, some title⟩ : Annotation).event around.setting]⟩ := by
  have hpost := posted_eq ⟨.error, fault.message, some title⟩ around.setting state
  rw [complain, Act.bind_apply_of_ok (by rw [hpost]), hpost]
  rfl

/-- What is wrong with the expression is announced, and the program fails. -/
theorem runConfigured_of_isA_constraint (around : Surroundings) (hretries : 0 ≤ c.retries)
    (h : Expression.read c.expression = .error fault) (hkind : fault.isA .constraint = true)
    (host : Host) :
    runConfigured around c host =
      ⟨.ok .failure, { host with desk := { host.desk with snapshot := none } },
        [.clientMade (some c.clientSettings),
          (⟨.error, fault.message, some "Invalid requires-python"⟩ : Annotation).event
            around.setting]⟩ := by
  have htitle : titleOf fault = some "Invalid requires-python" := by rw [titleOf, if_pos hkind]
  rw [runConfigured, Act.either, Configuration.run_of_read_eq_error hretries h]
  simp only [htitle, complain_apply, List.singleton_append]

theorem runConfigured_of_badValue {problem : BadValue} (around : Surroundings)
    (hretries : 0 ≤ c.retries) (h : Expression.read c.expression = .error (.badValue problem))
    (host : Host) : (runConfigured around c host).result = .error (.badValue problem) := by
  rw [runConfigured, Act.either_result, Configuration.run_of_read_eq_error hretries h]
  rfl

end CommandLine

namespace Expression

theorem isA_constraint_of_isAnswer {fault : Fault} (h : IsAnswer (.error fault)) :
    fault.isA .constraint = true := by
  rcases h with rfl | rfl | ⟨_, _, rfl⟩ <;> rfl

/-- An expression is answered unless a number in it is too long. What is wrong with it is announced
by the program, which then fails; a number that is too long ends the program with a fault that is
none of the expression's. -/
theorem isAnswer_iff_not_isOverlong (expression : String) :
    (IsAnswer (read expression) ↔ ¬IsOverlong expression) ∧
    (IsOverlong expression →
      ∃ problem, problem.isAboutLength = true ∧ read expression = .error (.badValue problem)) ∧
    ∀ (around : CommandLine.Surroundings) (c : Configuration) (host : Host) (fault : Fault),
      c.expression = expression → 0 ≤ c.retries → read expression = .error fault →
      (¬IsOverlong expression →
        (CommandLine.runConfigured around c host).result = .ok .failure ∧
        (CommandLine.runConfigured around c host).events =
          [.clientMade (some c.clientSettings),
            (⟨.error, fault.message, some "Invalid requires-python"⟩ : Annotation).event
              around.setting]) ∧
      (IsOverlong expression →
        (CommandLine.runConfigured around c host).result = .error fault) := by
  rcases read_cases expression with ⟨hanswer, hshort⟩ | ⟨hlong, problem, hlength, hread⟩
  · refine ⟨iff_of_true hanswer hshort, fun hlong => absurd hlong hshort, ?_⟩
    rintro around c host fault rfl hretries hread
    rw [hread] at hanswer
    refine ⟨fun _ => ?_, fun hlong => absurd hlong hshort⟩
    rw [CommandLine.runConfigured_of_isA_constraint around hretries hread
      (isA_constraint_of_isAnswer hanswer)]
    exact ⟨rfl, rfl⟩
  · refine ⟨iff_of_false (hread ▸ not_isAnswer_badValue problem) (not_not_intro hlong),
      fun _ => ⟨problem, hlength, hread⟩, ?_⟩
    rintro around c host fault rfl hretries hfault
    obtain rfl := Except.error.inj (hread.symm.trans hfault)
    exact ⟨fun hshort => absurd hlong hshort, fun _ =>
      CommandLine.runConfigured_of_badValue around hretries hread host⟩

theorem runConfigured_of_lone_comma :
    IsAnswer (read ",") ∧
      (CommandLine.runConfigured ⟨[], .workflow, .bare⟩ { expression := "," }
        ⟨.unconnected, []⟩).result = .ok .failure ∧
      (CommandLine.runConfigured ⟨[], .workflow, .bare⟩ { expression := "," }
        ⟨.unconnected, []⟩).events =
          [.clientMade (some ⟨Feed.defaultAddress, Feed.defaultTimeout, Feed.defaultRetries⟩),
            .printed "::error title=Invalid requires-python::no valid constraints found\n"] := by
  have hnil : segments ",".toList = [] := by decide
  have hshort : ¬IsOverlong "," := not_isOverlong_of_good (hnil ▸ fun _ => List.not_mem_nil.elim)
  have hread : read "," = .error .noConstraintsFound := by with_unfolding_all decide
  obtain ⟨hanswer, _, hrun⟩ := isAnswer_iff_not_isOverlong ","
  obtain ⟨hresult, hevents⟩ := (hrun ⟨[], .workflow, .bare⟩ { expression := "," }
    ⟨.unconnected, []⟩ .noConstraintsFound rfl (by decide) hread).1 hshort
  refine ⟨hanswer.mpr hshort, hresult, hevents.trans ?_⟩
  decide

theorem not_isAnswer_of_not_fits {clause : Clause} (h : ¬clause.Fits) :
    ¬IsAnswer (read (String.ofList clause.chars)) := by
  have hparts : segments (String.ofList clause.chars).toList = [clause.chars] := by
    rw [String.toList_ofList, segments_chars]
  rcases read_cases (String.ofList clause.chars) with ⟨_, hshort⟩ | ⟨_, problem, _, hread⟩
  · exact absurd ⟨[], clause, [], hparts, h, .inr fun _ => List.not_mem_nil.elim⟩ hshort
  · rw [hread]
    exact not_isAnswer_badValue problem

/-- A number of one digit more than are ever read is no answer's. -/
theorem not_always_isAnswer : ¬∀ expression : String, IsAnswer (read expression) := by
  intro h
  let run : DigitRun := ⟨List.replicate (Numeral.digitLimit + 1) '1', by simp, fun c hc =>
    List.eq_of_mem_replicate hc ▸ rfl⟩
  let clause : Clause := .comparison .ge [] ⟨run, .ofNat 0, none⟩ fun _ => List.not_mem_nil.elim
  have hlong : ¬clause.Fits := fun hfits => by
    have hlength : run.chars.length ≤ Numeral.digitLimit := hfits.1.1
    rw [List.length_replicate] at hlength
    exact Nat.not_succ_le_self _ hlength
  have hanswer := not_isAnswer_of_not_fits hlong
  generalize String.ofList clause.chars = expression at hanswer
  exact hanswer (h expression)

end Expression

end ReleaseLines
