import ReleaseLines.Proofs.Distinct
import ReleaseLines.Proofs.Except
import ReleaseLines.Proofs.Interpreter.Reading
import Mathlib.Data.List.Nodup

namespace ReleaseLines

namespace Event

/-- The commands that were run, with the seconds that each may take. -/
def commands (events : List Event) : List (List String × Nat) := events.filterMap command?

theorem commands_append (first second : List Event) :
    commands (first ++ second) = commands first ++ commands second :=
  List.filterMap_append

theorem mem_commands_iff {events : List Event} {command : List String} {seconds : Nat} :
    (command, seconds) ∈ commands events ↔ .launched command seconds ∈ events := by
  rw [commands, List.mem_filterMap]
  constructor
  · rintro ⟨event, hevent, hcommand⟩
    cases event with
    | launched other limit =>
      obtain ⟨rfl, rfl⟩ := Prod.mk.inj (Option.some.inj hcommand)
      exact hevent
    | _ => cases hcommand
  · intro h
    exact ⟨_, h, rfl⟩

end Event

theorem Act.Noted.commands_eq_nil {σ α : Type} {act : Act σ α} (h : Act.Noted act) (state : σ) :
    Event.commands (act state).events = [] := by
  rw [Event.commands, List.filterMap_eq_nil_iff]
  intro event he
  cases (h state).2 event he with
  | intro level message => rfl

namespace Interpreter

/-- A failure that does not stop the search for interpreters: the command is missing, takes too long
or cannot be run. -/
def IsPassedOver (fault : Fault) : Prop :=
  isMissing fault = true ∨ isTimeout fault = true ∨ isRefusal fault = true

instance (fault : Fault) : Decidable (IsPassedOver fault) := by
  unfold IsPassedOver
  infer_instance

end Interpreter

namespace Machine

open Interpreter

/-- No command fails in a way that stops the search for interpreters. -/
def IsOrdinary (machine : Machine) : Prop :=
  ∀ command fault, machine.launch command = .failed fault → IsPassedOver fault

/-- Two machines on which the interpreter of a line is the same. -/
structure AgreesOn (machine other : Machine) (line : String) : Prop where
  locate : other.locate (commandOf line) = machine.locate (commandOf line)
  launch : ∀ path, machine.locate (commandOf line) = some path →
    other.launch (path :: versionArguments) = machine.launch (path :: versionArguments)

end Machine

namespace Interpreter

open Act VersionText

variable {σ : Type}

/-- The version that a launch comes to. -/
def reported : Launch → Except Fault (Option String)
  | .finished output complaints => .ok (found? (output ++ "\n" ++ complaints))
  | .failed fault => if IsPassedOver fault then .ok none else .error fault

/-- The path of the interpreter of a line, where there is one that can be run. -/
def pathOf? (machine : Machine) (line : String) : Option String :=
  (machine.locate (commandOf line)).filter (· != "")

/-- What comes to be known of the interpreter of a line. -/
def statusOf (machine : Machine) (line : String) : Except Fault Interpreter :=
  match pathOf? machine line with
  | none => .ok ⟨line, machine.locate (commandOf line), none⟩
  | some path =>
    (reported (machine.launch (path :: versionArguments))).map
      (⟨line, machine.locate (commandOf line), ·⟩)

/-- The commands that looking for the interpreter of a line runs. -/
def launches (machine : Machine) (line : String) : List (List String × Nat) :=
  ((pathOf? machine line).map fun path => (path :: versionArguments, timeLimit)).toList

theorem noted_readOutput (output : String) : Noted (readOutput output : Act σ (Option String)) := by
  unfold readOutput
  split
  · exact .pure _
  · split
    · exact .bind (Noted.log _ _) fun _ => .pure _
    · exact .pure _

theorem askVersion_apply (machine : Machine) (command : String) (arguments : List String)
    (state : σ) :
    (askVersion machine command arguments state).result =
        reported (machine.launch (command :: arguments)) ∧
      Event.commands (askVersion machine command arguments state).events =
        [(command :: arguments, timeLimit)] := by
  have hstart : (Act.emit (.launched (command :: arguments) timeLimit) state).result = .ok () := rfl
  rw [askVersion, bind_apply_of_ok hstart]
  cases hlaunch : machine.launch (command :: arguments) with
  | finished output complaints =>
    refine ⟨readOutput_result _ _, ?_⟩
    rw [Event.commands_append, (noted_readOutput _).commands_eq_nil]
    rfl
  | failed fault =>
    rw [reported]
    by_cases hmissing : isMissing fault = true
    · rw [if_pos (.inl hmissing)]
      simp only [hmissing, if_true]
      exact ⟨rfl, rfl⟩
    by_cases htimeout : isTimeout fault = true
    · rw [if_pos (.inr (.inl htimeout))]
      simp only [hmissing, htimeout, if_true]
      exact ⟨rfl, rfl⟩
    by_cases hrefusal : isRefusal fault = true
    · rw [if_pos (.inr (.inr hrefusal))]
      simp only [hmissing, htimeout, hrefusal, if_true]
      exact ⟨rfl, rfl⟩
    · rw [if_neg (by simp [IsPassedOver, hmissing, htimeout, hrefusal])]
      simp only [hmissing, htimeout, hrefusal]
      exact ⟨rfl, rfl⟩

theorem check_eq (machine : Machine) (line : String) :
    (check machine line : Act σ Interpreter) =
      match pathOf? machine line with
      | none => return ⟨line, machine.locate (commandOf line), none⟩
      | some path => do
        let version ← askVersion machine path versionArguments
        return ⟨line, machine.locate (commandOf line), version⟩ := by
  unfold check pathOf?
  split
  next hnone => rw [hnone]; rfl
  next hempty => rw [hempty]; rfl
  next path hnamed hfound =>
    have hkept : (some path).filter (· != "") = some path := by
      rw [Option.filter_some, if_pos (bne_iff_ne.mpr hnamed)]
    rw [hfound, hkept]

theorem check_apply (machine : Machine) (line : String) (state : σ) :
    (check machine line state).result = statusOf machine line ∧
      Event.commands (check machine line state).events = launches machine line := by
  rw [check_eq, statusOf, launches]
  cases pathOf? machine line with
  | none => exact ⟨rfl, rfl⟩
  | some path =>
    obtain ⟨hresult, hcommands⟩ := askVersion_apply machine path versionArguments state
    simp only
    cases hreported : reported (machine.launch (path :: versionArguments)) with
    | error fault =>
      rw [hreported] at hresult
      rw [bind_apply_of_error hresult]
      exact ⟨rfl, hcommands⟩
    | ok version =>
      rw [hreported] at hresult
      rw [bind_apply_of_ok hresult]
      refine ⟨rfl, ?_⟩
      rw [Event.commands_append, hcommands]
      rfl

theorem checkAll_result (machine : Machine) (lines : List String) (state : σ) :
    (checkAll machine lines state).result = lines.mapM (statusOf machine) := by
  induction lines generalizing state with
  | nil => rfl
  | cons line rest ih =>
    have hfirst := (check_apply machine line state).1
    rw [List.mapM_cons, checkAll]
    cases hstatus : statusOf machine line with
    | error fault =>
      rw [hstatus] at hfirst
      rw [result_bind_of_error hfirst]
      rfl
    | ok first =>
      rw [hstatus] at hfirst
      have hrest := ih (check machine line state).state
      rw [result_bind hfirst]
      cases hothers : rest.mapM (statusOf machine) with
      | error fault =>
        rw [hothers] at hrest
        rw [result_bind_of_error hrest]
        rfl
      | ok others =>
        rw [hothers] at hrest
        rw [result_bind hrest]
        rfl

theorem checkAll_commands {machine : Machine} {lines : List String}
    (h : ∀ line ∈ lines, ∃ i, statusOf machine line = .ok i) (state : σ) :
    Event.commands (checkAll machine lines state).events = lines.flatMap (launches machine) := by
  induction lines generalizing state with
  | nil => rfl
  | cons line rest ih =>
    obtain ⟨⟨first, hstatus⟩, hrest⟩ := List.forall_mem_cons.mp h
    obtain ⟨hresult, hcommands⟩ := check_apply machine line state
    rw [hstatus] at hresult
    obtain ⟨others, hothers⟩ := exists_mapM_eq_ok hrest
    have hlater := (checkAll_result machine rest (check machine line state).state).trans hothers
    rw [checkAll, bind_apply_of_ok hresult, Event.commands_append, hcommands,
      bind_apply_of_ok hlater, Event.commands_append, ih hrest]
    simp [Event.commands]

theorem detect_result (machine : Machine) (lines : List String) (state : σ) :
    (detect machine lines state).result = (lines.mapM (statusOf machine)).map distinct := by
  have hall := checkAll_result machine lines state
  rw [detect]
  cases hfound : lines.mapM (statusOf machine) with
  | error fault =>
    rw [hfound] at hall
    rw [result_bind_of_error hall]
    rfl
  | ok found =>
    rw [hfound] at hall
    rw [result_bind hall]
    rfl

theorem line_of_statusOf {machine : Machine} {line : String} {i : Interpreter}
    (h : statusOf machine line = .ok i) :
    i.line = line ∧ i.path = machine.locate (commandOf line) := by
  unfold statusOf at h
  split at h
  · obtain rfl := Except.ok.inj h
    exact ⟨rfl, rfl⟩
  · obtain ⟨version, _, rfl⟩ := except_map_eq_ok_iff.mp h
    exact ⟨rfl, rfl⟩

theorem lines_of_mapM {machine : Machine} {lines : List String} {found : List Interpreter}
    (h : lines.mapM (statusOf machine) = .ok found) : found.map (·.line) = lines := by
  rw [mapM_eq_ok_iff] at h
  induction h with
  | nil => rfl
  | cons hstatus _ ih => rw [List.map_cons, (line_of_statusOf hstatus).1, ih]

/-- What is detected is the status of each line, the lines in the order in which each of them comes
first. -/
theorem statuses_of_detect {machine : Machine} {lines : List String} {state : σ}
    {found : List Interpreter} (h : (detect machine lines state).result = .ok found) :
    found.map (·.line) = lines.eraseDups ∧ ∀ i ∈ found, statusOf machine i.line = .ok i := by
  rw [detect_result] at h
  obtain ⟨all, hall, rfl⟩ := except_map_eq_ok_iff.mp h
  -- A line that comes again is checked again and comes to the same: any check may be kept.
  refine ⟨by rw [distinct, map_eraseDupsBy, lines_of_mapM hall], fun i hi => ?_⟩
  have hmem : i ∈ all := (eraseDupsBy_sublist _ all).subset hi
  obtain ⟨line, _, hstatus⟩ := exists_of_mem_mapM hall hmem
  rw [(line_of_statusOf hstatus).1, hstatus]

theorem exists_statusOf {machine : Machine} (h : machine.IsOrdinary) (line : String) :
    ∃ i, statusOf machine line = .ok i := by
  unfold statusOf
  split
  · exact ⟨_, rfl⟩
  next path _ =>
    cases hlaunch : machine.launch (path :: versionArguments) with
    | finished output complaints => exact ⟨_, rfl⟩
    | failed fault => exact ⟨_, by rw [reported, if_pos (h _ fault hlaunch)]; rfl⟩

theorem statusOf_eq_of_agreesOn {machine other : Machine} {line : String}
    (h : machine.AgreesOn other line) : statusOf other line = statusOf machine line := by
  have hpath : pathOf? other line = pathOf? machine line := by rw [pathOf?, pathOf?, h.locate]
  unfold statusOf
  rw [hpath, h.locate]
  cases hfound : pathOf? machine line with
  | none => rfl
  | some path => simp only [h.launch path (Option.filter_eq_some_iff.mp hfound).1]

theorem mem_launches_iff {machine : Machine} {line : String} {command : List String}
    {seconds : Nat} :
    (command, seconds) ∈ launches machine line ↔
      ∃ path ≠ "", machine.locate (commandOf line) = some path ∧
        command = [path, "--version"] ∧ seconds = timeLimit := by
  simp only [launches, pathOf?, Option.mem_toList, Option.map_eq_some_iff,
    Option.filter_eq_some_iff, bne_iff_ne, Prod.mk.injEq]
  constructor
  · rintro ⟨path, ⟨hfound, hnamed⟩, rfl, rfl⟩
    exact ⟨path, hnamed, hfound, rfl, rfl⟩
  · rintro ⟨path, hnamed, hfound, rfl, rfl⟩
    exact ⟨path, ⟨hfound, hnamed⟩, rfl, rfl⟩

theorem detect_commands {machine : Machine} (h : machine.IsOrdinary) (lines : List String)
    (state : σ) :
    Event.commands (detect machine lines state).events = lines.flatMap (launches machine) := by
  obtain ⟨found, hfound⟩ := exists_mapM_eq_ok fun line (_ : line ∈ lines) => exists_statusOf h line
  have hall := (checkAll_result machine lines state).trans hfound
  rw [detect, bind_apply_of_ok hall, Event.commands_append,
    checkAll_commands fun line _ => exists_statusOf h line]
  exact List.append_nil _

theorem commandOf_injective : Function.Injective commandOf := by
  intro line other h
  exact String.ext (by simpa [commandOf, String.ext_iff] using h)

/-- What the log says of some interpreters, which is nothing where there are none. -/
def notice (level : Level) (opening : String) (names : List String) : List Event :=
  if names.isEmpty then [] else [.logged level (opening ++ Text.listed names)]

theorem report_apply (found : List Interpreter) (state : σ) :
    report found state = ⟨.ok (), state,
      notice .info "Available interpreters: " ((found.filter (·.isAvailable)).map summary) ++
        notice .warning "Missing interpreters: "
          ((found.filter (!·.isAvailable)).map command)⟩ := by
  unfold report notice
  simp only [List.isEmpty_map]
  cases (found.filter (·.isAvailable)).isEmpty <;>
    cases (found.filter (!·.isAvailable)).isEmpty <;> rfl

theorem count_command {found : List Interpreter} {lines : List String}
    (h : found.map (·.line) = lines.eraseDups) {line : String} (hline : line ∈ lines) :
    (found.map command).count (commandOf line) = 1 := by
  have hcommands : found.map command = lines.eraseDups.map commandOf := by
    rw [← h, List.map_map]
    rfl
  rw [hcommands]
  exact List.count_eq_one_of_mem ((nodup_eraseDups lines).map commandOf_injective)
    (List.mem_map_of_mem (List.mem_eraseDups.mpr hline))

theorem commandOf_mem_iff {found : List Interpreter} {line : String} :
    commandOf line ∈ found.map command ↔ ∃ i ∈ found, i.line = line := by
  simp only [List.mem_map, command, commandOf_injective.eq_iff]

theorem commandOf_mem_filter_iff {machine : Machine} {found : List Interpreter} {line : String}
    (hpaths : ∀ i ∈ found, i.path = machine.locate (commandOf i.line))
    (hline : line ∈ found.map (·.line)) (available : Bool) :
    commandOf line ∈ (found.filter fun i => i.isAvailable == available).map command ↔
      (machine.locate (commandOf line)).isSome = available := by
  rw [commandOf_mem_iff]
  constructor
  · rintro ⟨i, hi, rfl⟩
    obtain ⟨hmem, hkept⟩ := List.mem_filter.mp hi
    rw [← hpaths i hmem]
    exact beq_iff_eq.mp hkept
  · intro hlooked
    obtain ⟨i, hi, rfl⟩ := List.mem_map.mp hline
    refine ⟨i, List.mem_filter.mpr ⟨hi, beq_iff_eq.mpr ?_⟩, rfl⟩
    rw [isAvailable, hpaths i hi, hlooked]

/-- The log names the interpreters that were found and those that are missing, each on a line of its
own, and each command once. -/
structure Announces (machine : Machine) (lines : List String) (state : σ)
    (found available missing : List Interpreter) : Prop where
  perm : (available ++ missing).Perm found
  report_eq : report found state = ⟨.ok (), state,
    notice .info "Available interpreters: " (available.map summary) ++
      notice .warning "Missing interpreters: " (missing.map command)⟩
  named_once : ∀ line ∈ lines, ((available ++ missing).map command).count (commandOf line) = 1
  available_iff : ∀ line ∈ lines, commandOf line ∈ available.map command ↔
    (machine.locate (commandOf line)).isSome = true
  missing_iff : ∀ line ∈ lines, commandOf line ∈ missing.map command ↔
    machine.locate (commandOf line) = none

/-- What looking for the interpreters of some lines comes to. -/
structure Detects (machine : Machine) (lines : List String) (state : σ)
    (found : List Interpreter) : Prop where
  result : (detect machine lines state).result = .ok found
  line_eq : found.map (·.line) = lines.eraseDups
  path_eq : ∀ i ∈ found, i.path = machine.locate (commandOf i.line)
  /-- A status changes only with what finding and running its own interpreter comes to. -/
  independent : ∀ (other : Machine) (others : List String) (start : σ) (changed : List Interpreter),
    (detect other others start).result = .ok changed →
    ∀ i ∈ found, ∀ j ∈ changed, i.line = j.line → machine.AgreesOn other i.line → i = j
  launched_iff : ∀ command seconds,
    .launched command seconds ∈ (detect machine lines state).events ↔
      ∃ line ∈ lines, ∃ path ≠ "", machine.locate (commandOf line) = some path ∧
        command = [path, "--version"] ∧ seconds = timeLimit
  announced : ∃ available missing, Announces machine lines state found available missing

theorem announces_of_statuses {machine : Machine} {lines : List String} {found : List Interpreter}
    (hlines : found.map (·.line) = lines.eraseDups)
    (hpaths : ∀ i ∈ found, i.path = machine.locate (commandOf i.line)) (state : σ) :
    Announces machine lines state found (found.filter (·.isAvailable))
      (found.filter (!·.isAvailable)) where
  perm := List.filter_append_perm _ _
  report_eq := report_apply found state
  named_once := by
    intro line hline
    rw [((List.filter_append_perm _ _).map command).count_eq]
    exact count_command hlines hline
  available_iff := by
    intro line hline
    have hmem : line ∈ found.map (·.line) := by
      rw [hlines]
      exact List.mem_eraseDups.mpr hline
    simpa using commandOf_mem_filter_iff hpaths hmem true
  missing_iff := by
    intro line hline
    have hmem : line ∈ found.map (·.line) := by
      rw [hlines]
      exact List.mem_eraseDups.mpr hline
    simpa using commandOf_mem_filter_iff hpaths hmem false

/-- A machine with one interpreter that works and one that takes too long. -/
def unevenMachine : Machine where
  locate command :=
    if command = "python3.12" then some "/usr/bin/python3.12"
    else if command = "python3.13" then some "/opt/python3.13"
    else none
  launch command :=
    if command = ["/usr/bin/python3.12", "--version"] then .finished "Python 3.12.1\n" ""
    else .failed (.foreign ⟨.commandTimeout, "TimeoutExpired", "timed out after 10 seconds"⟩)

end Interpreter

end ReleaseLines
