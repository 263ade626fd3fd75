import ReleaseLines.CommandLine.Program
import ReleaseLines.Proofs.Feed.Alike
import ReleaseLines.Proofs.Matrix.Containment
import ReleaseLines.Proofs.Output.Run

namespace ReleaseLines

open Act

namespace Feed

/-- The feed can be had and supports no line. -/
def Client.FindsNothing (client : Client) (desk : Desk) : Prop :=
  ∃ catalog, (client.fetch desk).result = .ok catalog ∧
    ¬∃ cycle, catalog.Supports (client.fetch desk).state.today cycle

theorem Client.findsNothing_iff (client : Client) (desk : Desk) :
    client.FindsNothing desk ↔ (client.supported oldestLine desk).result = .ok [] := by
  have hnone (catalog : Catalog) (today : Date) :
      (¬∃ cycle, catalog.Supports today cycle) ↔
        catalog.cycles.filter (catalog.isLive oldestLine today) = [] := by
    rw [List.eq_nil_iff_forall_not_mem, not_exists]
    exact forall_congr' fun cycle => not_congr (mem_liveCycles_iff catalog today cycle).symm
  constructor
  · rintro ⟨catalog, hfetch, hvacant⟩
    rw [supported_result hfetch oldestLine, (hnone _ _).mp hvacant]
  · intro h
    obtain ⟨catalog, hfetch, _⟩ := exists_of_result_bind h
    rw [supported_result hfetch oldestLine] at h
    exact ⟨catalog, hfetch, (hnone _ _).mpr (Except.ok.inj h)⟩

end Feed

namespace CommandLine

open Feed

/-- Whether the command that looks for interpreters does without the feed. -/
def Surroundings.isOffline (around : Surroundings) (offline : Option Bool) : Bool :=
  offline.getD (Configuration.saysYes ((around.lookup? "OFFLINE").getD "false"))

/-- A desk with nothing in stock. -/
def emptied (desk : Desk) : Desk := { desk with snapshot := none }

theorem prepareStandard_apply (desk : Desk) :
    Client.prepareStandard desk = ⟨.ok Client.standard, emptied desk, [.clientMade none]⟩ := rfl

theorem linesToCheck_offline (desk : Desk) :
    (linesToCheck true desk).result = .ok fallbackLines := by
  rw [linesToCheck, result_bind (by rw [prepareStandard_apply]), if_pos rfl, pure_apply]

theorem linesToCheck_of_supported {desk : Desk} {lines sorted : List String}
    (h : (Client.standard.supported oldestLine (emptied desk)).result = .ok lines)
    (hsorted : sortLines lines = .ok sorted) : (linesToCheck false desk).result = .ok sorted := by
  rw [linesToCheck, result_bind (by rw [prepareStandard_apply]), prepareStandard_apply,
    if_neg Bool.false_ne_true, either_result, result_bind h, ofValue_result hsorted]
  rfl

theorem linesToCheck_of_error {desk : Desk} {fault : Fault}
    (h : (Client.standard.supported oldestLine (emptied desk)).result = .error fault) :
    (linesToCheck false desk).result =
      if fault.isA .general = true then .ok fallbackLines else .error fault := by
  rw [linesToCheck, result_bind (by rw [prepareStandard_apply]), prepareStandard_apply,
    if_neg Bool.false_ne_true, either_result, result_bind_of_error h]
  split
  next hkind =>
    simp only [hkind, if_true]
    rw [result_bind rfl]
    rfl
  next hkind =>
    simp only [hkind, Bool.false_eq_true, if_false, fail_apply]

/-- The lines to look for are the candidates for a matrix, or are missing for the same reason,
except where the feed can be had and supports no line. -/
theorem linesToCheck_result {client : Client} {desk start : Desk}
    (hretries : client.retries = Client.standard.retries) (hstale : ¬client.IsFresh desk)
    (hsame : desk.surroundings = start.surroundings) :
    (¬client.FindsNothing desk → (linesToCheck false start).result =
      (client.provider.candidates false desk).result.map (·.1)) ∧
    (client.FindsNothing desk → (linesToCheck false start).result = .ok [] ∧
      (client.provider.candidates false desk).result =
        .ok (fallbackLines, SupportMatrix.fallbackSource)) := by
  have hempty : ¬Client.standard.IsFresh (emptied start) := Client.not_isFresh_of_empty rfl
  have halike := (Client.supported_alike hretries
    (show desk.surroundings = (emptied start).surroundings from hsame) hstale hempty oldestLine).1
  rw [Client.findsNothing_iff]
  generalize hfirst : (client.supported oldestLine desk).result = first at halike
  generalize hsecond : (Client.standard.supported oldestLine (emptied start)).result = second
    at halike
  have hsupported : (client.provider.supported desk).result = first := hfirst
  cases halike with
  | ok lines =>
    obtain ⟨sorted, hsorted⟩ := exists_sortLines fun line => readable_of_supported hfirst
    have hlines := linesToCheck_of_supported hsecond hsorted
    constructor
    · intro hlisted
      have hne : lines ≠ [] := fun hnil => hlisted (congrArg Except.ok hnil)
      rw [hlines, Provider.candidates_of_supported hne hsupported hsorted]
      rfl
    · intro hnil
      obtain rfl := Except.ok.inj hnil
      have hnone : sorted = [] := by
        rw [List.eq_nil_iff_forall_not_mem]
        intro line hline
        exact List.not_mem_nil ((mem_sortLines hsorted line).mp hline)
      rw [hnone] at hlines
      exact ⟨hlines, Provider.candidates_of_nil rfl hsupported⟩
  | @error fault other hfaults =>
    have hlines := linesToCheck_of_error hsecond
    refine ⟨fun _ => ?_, nofun⟩
    rcases hfaults with rfl | ⟨hkind, hother⟩
    · cases hkind : fault.isA .general with
      | true =>
        rw [hlines, if_pos hkind, Provider.candidates_of_error rfl hsupported hkind]
        rfl
      | false =>
        rw [hlines, hkind, if_neg Bool.false_ne_true,
          Provider.candidates_of_escaped hsupported hkind]
        rfl
    · rw [hlines, if_pos hother, Provider.candidates_of_error rfl hsupported hkind]
      rfl

theorem linesToCheck_agrees (offline : Bool) {client : Client} {desk start : Desk}
    (hretries : client.retries = Client.standard.retries) (hstale : ¬client.IsFresh desk)
    (hsame : desk.surroundings = start.surroundings)
    (hlisted : offline = true ∨ ¬client.FindsNothing desk) :
    (linesToCheck offline start).result =
      (client.provider.candidates offline desk).result.map (·.1) := by
  cases offline with
  | true =>
    rw [linesToCheck_offline, Provider.candidates_offline rfl]
    rfl
  | false =>
    have hfound : ¬client.FindsNothing desk := hlisted.resolve_left Bool.false_ne_true
    exact (linesToCheck_result hretries hstale hsame).1 hfound

theorem hidden_linesToCheck (offline : Bool) : Hidden (linesToCheck offline) := by
  have hprepare : Hidden Client.prepareStandard :=
    .bind (.emit (.clientMade _)) fun _ => .bind (.modify fun _ => rfl) fun _ => .pure _
  apply Keeps.bind hprepare
  intro client
  split
  · exact .pure _
  · apply Keeps.either (.bind (client.hidden_supported _) fun _ => .ofValue _)
    intro result
    cases result with
    | ok lines => exact .pure _
    | error fault =>
      show Hidden (if fault.isA .general then _ else _)
      split
      · exact .bind (Hidden.log _ _) fun _ => .pure _
      · exact .fail _

/-- The command that looks for interpreters looks for those of some lines: it has come to them
without anything being shown or any command being run, and has left the files alone. -/
def ChecksLines (around : Surroundings) (offline : Option Bool) (host : Host)
    (lines : List String) : Prop :=
  ∃ (hidden : List Event) (later : Host), (∀ event ∈ hidden, event.IsHidden) ∧
    later.files = host.files ∧
    runTools around [] offline host =
      ((do checkInterpreters around lines; return Exit.success) later).after hidden

theorem runTools_apply (around : Surroundings) (offline : Option Bool) :
    runTools around [] offline =
      (Host.atDesk (linesToCheck (around.isOffline offline)) >>= fun lines => do
        checkInterpreters around lines
        return Exit.success) := rfl

theorem checksLines_of_result {around : Surroundings} {offline : Option Bool} {host : Host}
    {lines : List String}
    (h : (linesToCheck (around.isOffline offline) host.desk).result = .ok lines) :
    ChecksLines around offline host lines := by
  have hlines : (Host.atDesk (linesToCheck (around.isOffline offline)) host).result = .ok lines := h
  refine ⟨(linesToCheck (around.isOffline offline) host.desk).events,
    { host with desk := (linesToCheck (around.isOffline offline) host.desk).state },
    (hidden_linesToCheck _ host.desk).2, rfl, ?_⟩
  rw [runTools_apply, bind_apply_of_ok hlines]
  rfl

theorem ChecksLines.displays_eq {around : Surroundings} {offline : Option Bool} {host : Host}
    {lines : List String} (h : ChecksLines around offline host lines) :
    ∃ later : Host, Event.displays (runTools around [] offline host).events =
      Event.displays
        ((do checkInterpreters around lines; return Exit.success : Act Host Exit) later).events := by
  obtain ⟨hidden, later, hhidden, _, heq⟩ := h
  refine ⟨later, ?_⟩
  rw [heq, Outcome.after, Event.displays_append_of_hidden hhidden]

theorem drawn_of_candidates {client : Client} {desk : Desk} {offline : Bool}
    {candidates : List String} {source : String}
    (h : (client.provider.candidates offline desk).result = .ok (candidates, source)) :
    (source = SupportMatrix.feedSource ∧ InOrder candidates ∧
      ∃ catalog, (client.fetch desk).result = .ok catalog ∧
        ∀ line, line ∈ candidates ↔ catalog.Supports (client.fetch desk).state.today line) ∨
    source = SupportMatrix.fallbackSource ∧ candidates = fallbackLines := by
  cases offline with
  | true =>
    rw [Provider.candidates_offline rfl] at h
    obtain ⟨hcandidates, hsource⟩ := Prod.mk.inj (Except.ok.inj h)
    exact .inr ⟨hsource.symm, hcandidates.symm⟩
  | false =>
    rcases origin_of_candidates h with
      ⟨catalog, hfetch, _, hsource, horder, hlines⟩ | ⟨_, hsource, hlines⟩
    · exact .inl ⟨hsource, horder, catalog, hfetch, hlines⟩
    · exact .inr ⟨hsource, hlines⟩

/-- The command that looks for interpreters and the building of a matrix from some candidates go by
the same lines, unless the feed can be had and supports none. -/
structure StartsFrom (around : Surroundings) (offline : Option Bool) (host : Host) (client : Client)
    (desk : Desk) (candidates : List String) (source : String) : Prop where
  /-- The candidates are the supported lines in order, or the built-in ones. -/
  drawn : (source = SupportMatrix.feedSource ∧ InOrder candidates ∧
      ∃ catalog, (client.fetch desk).result = .ok catalog ∧
        ∀ line, line ∈ candidates ↔ catalog.Supports (client.fetch desk).state.today line) ∨
    source = SupportMatrix.fallbackSource ∧ candidates = fallbackLines
  resolves : ∀ expression found, Expression.read expression = .ok found →
    ResolvesTo (SupportMatrix.build expression (some client.provider) (around.isOffline offline)
      desk).result expression found source candidates
  checked : around.isOffline offline = true ∨ ¬client.FindsNothing desk →
    ChecksLines around offline host candidates
  vacant : around.isOffline offline = false → client.FindsNothing desk →
    candidates = fallbackLines ∧ source = SupportMatrix.fallbackSource ∧
      ChecksLines around offline host []

/-- The command that looks for interpreters and the building of a matrix start from the same lines,
or fail for the same reason. Only where the feed can be had and supports no line, the matrix is
built from the built-in lines and the command looks for nothing. -/
theorem checksLines_of_candidates (around : Surroundings) (offline : Option Bool) (host : Host)
    (client : Client) (desk : Desk) (hretries : client.retries = Client.standard.retries)
    (hstale : ¬client.IsFresh desk) (hsame : desk.surroundings = host.desk.surroundings) :
    (∀ fault, (SupportMatrix.candidatesOf (some client.provider) (around.isOffline offline)
        desk).result = .error fault →
      (runTools around [] offline host).result = .error fault) ∧
    ∀ candidates source, (SupportMatrix.candidatesOf (some client.provider)
        (around.isOffline offline) desk).result = .ok (candidates, source) →
      StartsFrom around offline host client desk candidates source := by
  have hagree := linesToCheck_agrees (around.isOffline offline) hretries hstale hsame
  have hvacant (hoffline : around.isOffline offline = false) (hnothing : client.FindsNothing desk) :
      (linesToCheck (around.isOffline offline) host.desk).result = .ok [] ∧
        (client.provider.candidates (around.isOffline offline) desk).result =
          .ok (fallbackLines, SupportMatrix.fallbackSource) := by
    rw [hoffline]
    exact (linesToCheck_result hretries hstale hsame).2 hnothing
  constructor
  · intro fault hfault
    have hcandidates : (client.provider.candidates (around.isOffline offline) desk).result =
        .error fault := hfault
    by_cases hlisted : around.isOffline offline = true ∨ ¬client.FindsNothing desk
    · have hlines := hagree hlisted
      rw [hcandidates] at hlines
      have hfirst : (Host.atDesk (linesToCheck (around.isOffline offline)) host).result =
          .error fault := hlines
      rw [runTools_apply, result_bind_of_error hfirst]
    · obtain ⟨honline, hnothing⟩ := not_or.mp hlisted
      have hbuiltIn := (hvacant (by simpa using honline) (not_not.mp hnothing)).2
      cases hcandidates.symm.trans hbuiltIn
  · intro candidates source hcandidates
    obtain ⟨hne, hreadable⟩ := readable_of_candidates hcandidates
    refine ⟨drawn_of_candidates hcandidates, ?_, ?_, ?_⟩
    · intro expression found hread
      exact SupportMatrix.resolvesTo_of_candidates hread hcandidates hne hreadable
    · intro hlisted
      have hlines := hagree hlisted
      have hchosen : (client.provider.candidates (around.isOffline offline) desk).result =
          .ok (candidates, source) := hcandidates
      rw [hchosen] at hlines
      exact checksLines_of_result hlines
    · intro honline hnothing
      obtain ⟨hlines, hbuiltIn⟩ := hvacant honline hnothing
      obtain ⟨hcandidates, hsource⟩ :=
        Prod.mk.inj (Except.ok.inj (hcandidates.symm.trans hbuiltIn))
      exact ⟨hcandidates, hsource, checksLines_of_result hlines⟩

/-- A command line by hand on a machine on which nothing is found. -/
def bareTerminal : Surroundings := ⟨[], .terminal, .bare⟩

/-- A client as slow to give up as the one of all defaults, but in nothing else like it. -/
def otherClient : Client := ⟨"mirror", defaultTimeout, Client.standard.retries, 0⟩

theorem isOffline_bareTerminal : bareTerminal.isOffline none = false := by decide

theorem findsNothing_of_old_line :
    Client.standard.FindsNothing (.publishing [.obj [("cycle", .str "3.8")]]) := by
  rw [Client.findsNothing_iff]
  decide +kernel

theorem candidatesOf_of_old_line :
    (SupportMatrix.candidatesOf (some Client.standard.provider) (bareTerminal.isOffline none)
      (.publishing [.obj [("cycle", .str "3.8")]])).result =
      .ok (fallbackLines, SupportMatrix.fallbackSource) := by
  rw [isOffline_bareTerminal]
  exact Provider.candidates_of_nil rfl
    ((Client.findsNothing_iff _ _).mp findsNothing_of_old_line)

theorem supported_of_new_line :
    (otherClient.provider.supported (.publishing [.obj [("cycle", .str "3.12")]])).result =
      .ok ["3.12"] := by
  decide +kernel

theorem checksLines_of_new_and_old_lines :
    ChecksLines bareTerminal none ⟨.publishing [.obj [("cycle", .str "3.12")]], []⟩ ["3.12"] ∧
    ChecksLines bareTerminal none ⟨.publishing [.obj [("cycle", .str "3.8")]], []⟩ [] := by
  constructor
  · have hversion : Version.read "3.12" = .ok ⟨3, 12⟩ := rfl
    have hnew : (SupportMatrix.candidatesOf (some otherClient.provider)
        (bareTerminal.isOffline none) (.publishing [.obj [("cycle", .str "3.12")]])).result =
          .ok (["3.12"], SupportMatrix.feedSource) := by
      rw [isOffline_bareTerminal]
      exact Provider.candidates_of_single hversion supported_of_new_line
    have hlisted : ¬otherClient.FindsNothing (.publishing [.obj [("cycle", .str "3.12")]]) := by
      rw [Client.findsNothing_iff]
      intro hnone
      cases supported_of_new_line.symm.trans hnone
    have hkey := checksLines_of_candidates bareTerminal none
      ⟨.publishing [.obj [("cycle", .str "3.12")]], []⟩ otherClient
      (.publishing [.obj [("cycle", .str "3.12")]]) rfl (Client.not_isFresh_of_empty rfl) rfl
    exact (hkey.2 _ _ hnew).checked (.inr hlisted)
  · have hkey := checksLines_of_candidates bareTerminal none
      ⟨.publishing [.obj [("cycle", .str "3.8")]], []⟩ Client.standard
      (.publishing [.obj [("cycle", .str "3.8")]]) rfl (Client.not_isFresh_of_empty rfl) rfl
    have hstart := hkey.2 _ _ candidatesOf_of_old_line
    exact (hstart.vacant isOffline_bareTerminal findsNothing_of_old_line).2.2

/-- Where the feed supports no line, interpreters of the built-in lines are not looked for. -/
theorem not_always_checksLines :
    ¬∀ (around : Surroundings) (offline : Option Bool) (host : Host) (client : Client)
      (desk : Desk), client.retries = Client.standard.retries → ¬client.IsFresh desk →
      desk.surroundings = host.desk.surroundings →
      ∀ candidates source, (SupportMatrix.candidatesOf (some client.provider)
          (around.isOffline offline) desk).result = .ok (candidates, source) →
        ChecksLines around offline host candidates := by
  intro h
  let old : Desk := .publishing [.obj [("cycle", .str "3.8")]]
  have hchecks := h bareTerminal none ⟨old, []⟩ Client.standard old rfl
    (Client.not_isFresh_of_empty rfl) rfl _ _ candidatesOf_of_old_line
  obtain ⟨later, hdisplays⟩ := hchecks.displays_eq
  have hactual : Event.displays (runTools bareTerminal [] none ⟨old, []⟩).events =
      [.table (Interpreter.table [])] := by
    decide +kernel
  have hclaimed : Event.displays ((do
      checkInterpreters bareTerminal fallbackLines
      return Exit.success : Act Host Exit) later).events =
      [.table (Interpreter.table (fallbackLines.map fun line => ⟨line, none, none⟩))] := rfl
  rw [hactual, hclaimed] at hdisplays
  revert hdisplays
  decide

end CommandLine

end ReleaseLines
